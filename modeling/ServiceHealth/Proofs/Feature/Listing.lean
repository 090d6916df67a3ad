import Mathlib.Data.List.Sort
import ServiceHealth.Files.Tree
import ServiceHealth.Proofs.Error.Sequence
import ServiceHealth.Proofs.Feature.Collected
import ServiceHealth.Proofs.Text.ByteOrder

/-!
# The feature files of directories

A directory lists its entries in no certain order.  What it stands for does not depend on
this order: the files in it with the extension `feature`, in the order of the bytes of their
names.  `StandsFor` says so without sorting anything.

`collect_expands` states that paths are replaced by what they stand for, one after another,
unless one of them leads nowhere, and that the first such path is named then.

* **Names.**  `isFeatureName_iff` describes the names that count by their extension.
* **Order.**  `mem_sortedNames_iff` and `pairwise_sortedNames` describe the names that are
  kept; together they leave one list only.
* **Paths.**  `collect_eq_mapM` takes the paths one by one, so that what holds of one path
  extends to a list of them.
-/

namespace ServiceHealth

namespace FileSystem

/-- A directory at this path can be read, and it lists each name once. -/
def IsReadable (files : FileSystem) (path : String) : Prop :=
  ∀ listing, files.node path = .directory listing → ∃ names, listing = .ok names ∧ names.Nodup

/-- The path leads neither to a directory nor to a file. -/
def LeadsNowhere (files : FileSystem) (path : String) : Prop :=
  files.isDirectory path = false ∧ files.isFile path = false

/-- The same is at every path, but directories list their names in another order. -/
def Relists (files other : FileSystem) : Prop :=
  ∀ path, other.node path = files.node path ∨
    ∃ names others, files.node path = .directory (.ok names) ∧
      other.node path = .directory (.ok others) ∧ others.Perm names

theorem isFile_of_relists {files other : FileSystem} (h : files.Relists other) (path : String) :
    other.isFile path = files.isFile path := by
  unfold isFile
  rcases h path with hsame | ⟨names, others, hnames, hothers, -⟩
  · rw [hsame]
  · rw [hnames, hothers]

end FileSystem

namespace FileTree

theorem nodup_eraseDups : (names : List String) → names.eraseDups.Nodup
  | [] => by simp
  | name :: names => by
      rw [List.eraseDups_cons, List.nodup_cons]
      constructor
      · rw [List.mem_eraseDups, List.mem_filter]
        simp
      · exact nodup_eraseDups (names.filter fun other => !other == name)
termination_by names => names.length
decreasing_by
  have hlength := List.length_filter_le (fun other => !other == name) names
  rw [List.length_cons]
  omega

/-- What is at the paths of a file tree can be read. -/
theorem isReadable (tree : FileTree) (path : String) : tree.toFileSystem.IsReadable path := by
  intro listing hlisting
  change tree.node path = _ at hlisting
  unfold node at hlisting
  cases hway : tree.way path with
  | error fault =>
      rw [hway] at hlisting
      cases hlisting
  | ok way =>
      rw [hway] at hlisting
      cases hplace : tree.place way with
      | nothing | file bytes =>
          simp only [hplace] at hlisting
          cases hlisting
      | directory =>
          simp only [hplace] at hlisting
          have hnames : .ok (tree.names way) = listing := Node.directory.inj hlisting
          exact ⟨tree.names way, hnames.symm, nodup_eraseDups _⟩

end FileTree

namespace Feature

variable {files other : FileSystem} {path : String} {names others paths : List String}

/-! ## Names -/

/-- The extension is what follows the last point of the name, and something is before this point. -/
def HasExtension (name extension : String) : Prop :=
  ∃ stem, stem ≠ [] ∧ '.' ∉ extension.toList ∧ name.toList = stem ++ '.' :: extension.toList

theorem isFeatureName_iff {name : String} :
    isFeatureName name = true ↔ HasExtension name "feature" := by
  have hextension : extension = '.' :: "feature".toList := by decide
  have hpoint : '.' ∉ "feature".toList := by decide
  rw [isFeatureName, Bool.and_eq_true, List.isSuffixOf_iff_suffix, bne_iff_ne, hextension]
  constructor
  · rintro ⟨⟨stem, hstem⟩, hne⟩
    refine ⟨stem, ?_, hpoint, hstem.symm⟩
    rintro rfl
    exact hne hstem.symm
  · rintro ⟨stem, hne, -, hname⟩
    refine ⟨⟨stem, hname.symm⟩, ?_⟩
    intro heq
    rw [hname] at heq
    exact hne (List.append_left_eq_self.mp heq)

/-! ## The order of names -/

/-- The bytes of the first name come before those of the second. -/
def Precedes (first second : String) : Prop :=
  Text.Utf8.encode first < Text.Utf8.encode second

/-- The names of the feature files in a directory, in order. -/
def sortedNames (files : FileSystem) (path : String) (names : List String) : List String :=
  (featureNames files path names).mergeSort fun first second => decide (first ≤ second)

theorem mem_sortedNames_iff {name : String} :
    name ∈ sortedNames files path names ↔
      name ∈ names ∧ HasExtension name "feature" ∧ files.isFile (Path.join path name) = true := by
  rw [sortedNames, List.mem_mergeSort, featureNames, List.mem_filter, Bool.and_eq_true,
    isFeatureName_iff]

theorem pairwise_le_sortedNames :
    (sortedNames files path names).Pairwise fun first second => first ≤ second := by
  have hsorted : (sortedNames files path names).Pairwise fun first second =>
      decide (first ≤ second) = true := by
    apply List.pairwise_mergeSort
    · intro first second third hfirst hsecond
      rw [decide_eq_true_eq] at hfirst hsecond ⊢
      exact hfirst.trans hsecond
    · intro first second
      rw [Bool.or_eq_true, decide_eq_true_eq, decide_eq_true_eq]
      exact le_total first second
  exact hsorted.imp fun hle => of_decide_eq_true hle

/-- Names that are listed once are in strict order. -/
theorem pairwise_sortedNames (hnodup : names.Nodup) :
    (sortedNames files path names).Pairwise Precedes := by
  have hkept : (sortedNames files path names).Nodup :=
    (List.mergeSort_perm _ _).nodup_iff.mpr (hnodup.filter _)
  refine (pairwise_le_sortedNames.and hkept).imp ?_
  rintro first second ⟨hle, hne⟩
  exact Text.Utf8.encode_lt_encode_iff.mpr (lt_of_le_of_ne hle hne)

/-- There is one list of certain names in strict order. -/
theorem eq_of_pairwise_precedes (hnames : names.Pairwise Precedes)
    (hothers : others.Pairwise Precedes) (hmem : ∀ name, name ∈ names ↔ name ∈ others) :
    names = others := by
  have hlt : ∀ {list : List String}, list.Pairwise Precedes →
      list.Pairwise fun first second => first < second :=
    fun h => h.imp fun hprecedes => Text.Utf8.encode_lt_encode_iff.mp hprecedes
  exact (hlt hnames).eq_of_mem_iff (hlt hothers) hmem

theorem sortedNames_eq_of_relists (h : files.Relists other) (hperm : others.Perm names) :
    sortedNames other path others = sortedNames files path names := by
  have hfeature : (featureNames other path others).Perm (featureNames files path names) := by
    unfold featureNames
    simp only [FileSystem.isFile_of_relists h]
    exact hperm.filter _
  have hsorted : (sortedNames other path others).Perm (sortedNames files path names) :=
    ((List.mergeSort_perm _ _).trans hfeature).trans (List.mergeSort_perm _ _).symm
  exact hsorted.eq_of_pairwise (fun _ _ _ _ => le_antisymm) pairwise_le_sortedNames
    pairwise_le_sortedNames

/-! ## One path -/

/-- A file stands for itself, and a directory for the files directly inside it that have the
extension `feature`, each of them once, in the order of the bytes of their names. -/
inductive StandsFor (files : FileSystem) : (path : String) → (group : List String) → Prop
  | file {path : String} (hfile : files.isFile path = true) : StandsFor files path [path]
  | directory {path : String} {names kept : List String}
      (hnames : files.node path = .directory (.ok names))
      (hkept : ∀ name, name ∈ kept ↔ name ∈ names ∧ HasExtension name "feature" ∧
        files.isFile (Path.join path name) = true)
      (hsorted : kept.Pairwise Precedes) : StandsFor files path (kept.map (Path.join path))

theorem featureFiles_eq_map :
    featureFiles files path names = (sortedNames files path names).map (Path.join path) :=
  rfl

theorem filesAt_of_isFile (hfile : files.isFile path = true) : filesAt files path = [path] := by
  unfold FileSystem.isFile at hfile
  unfold filesAt
  cases hnode : files.node path with
  | file contents => rfl
  | absent fault | directory listing | special contents =>
      rw [hnode] at hfile
      cases hfile

theorem expand_eq_ok_iff_standsFor (hreadable : files.IsReadable path) {group : List String} :
    expand files path = .ok group ↔ StandsFor files path group := by
  constructor
  · intro hexpand
    unfold expand at hexpand
    cases hnode : files.node path with
    | file contents =>
        rw [hnode] at hexpand
        obtain rfl := Except.ok.inj hexpand
        exact .file (by rw [FileSystem.isFile, hnode])
    | directory listing =>
        obtain ⟨names, rfl, hnodup⟩ := hreadable listing hnode
        rw [hnode] at hexpand
        obtain rfl := Except.ok.inj hexpand
        exact .directory hnode (fun name => mem_sortedNames_iff) (pairwise_sortedNames hnodup)
    | absent fault =>
        rw [hnode] at hexpand
        cases hexpand
    | special contents =>
        rw [hnode] at hexpand
        cases hexpand
  · intro hstands
    cases hstands with
    | file hfile =>
        have hat : filesAt files path = [path] := filesAt_of_isFile hfile
        exact expand_eq_ok_iff.mpr ⟨.inl hfile, hat.symm⟩
    | @directory listed kept hlisted hkept hsorted =>
        obtain ⟨_, heq, hnodup⟩ := hreadable _ hlisted
        obtain rfl := Except.ok.inj heq
        have hsame : kept = sortedNames files path listed := by
          apply eq_of_pairwise_precedes hsorted (pairwise_sortedNames hnodup)
          intro name
          rw [hkept, mem_sortedNames_iff]
        rw [expand, hlisted, hsame, ← featureFiles_eq_map]

theorem expand_eq_error_iff (hreadable : files.IsReadable path) {error : Error} :
    expand files path = .error error ↔
      files.LeadsNowhere path ∧ error = .fileRead path .notFound := by
  unfold expand FileSystem.LeadsNowhere FileSystem.isDirectory FileSystem.isFile
  cases hnode : files.node path with
  | directory listing =>
      obtain ⟨names, rfl, -⟩ := hreadable listing hnode
      simp
  | file contents => simp
  | absent fault => simp [eq_comm]
  | special contents => simp [eq_comm]

theorem expand_eq_of_relists (h : files.Relists other) (path : String) :
    expand other path = expand files path := by
  unfold expand
  rcases h path with hsame | ⟨names, others, hnames, hothers, hperm⟩
  · rw [hsame]
    cases hnode : files.node path with
    | directory listing =>
        cases listing with
        | error detail => rfl
        | ok names =>
            simp only [featureFiles_eq_map, sortedNames_eq_of_relists h (List.Perm.refl names)]
    | _ => rfl
  · simp only [hnames, hothers, featureFiles_eq_map, sortedNames_eq_of_relists h hperm]

/-- A path leads nowhere or stands for files. -/
theorem exists_expand_eq_ok_iff (hreadable : files.IsReadable path) :
    (∃ group, expand files path = .ok group) ↔ ¬ files.LeadsNowhere path := by
  constructor
  · intro ⟨group, hgroup⟩ hnowhere
    have herror := (expand_eq_error_iff hreadable).mpr ⟨hnowhere, rfl⟩
    rw [hgroup] at herror
    cases herror
  · intro hsomewhere
    cases hexpand : expand files path with
    | ok group => exact ⟨group, rfl⟩
    | error error => exact absurd ((expand_eq_error_iff hreadable).mp hexpand).1 hsomewhere

/-! ## All paths -/

theorem collect_eq_mapM (files : FileSystem) (paths : List String) :
    collect files paths = (paths.mapM (expand files)).map List.flatten := by
  induction paths with
  | nil => rfl
  | cons path paths ih =>
      rw [collect, ih, List.mapM_cons]
      cases expand files path with
      | error error => rfl
      | ok found =>
          cases paths.mapM (expand files) with
          | error error => rfl
          | ok groups => rfl

theorem forall₂_expand_iff (hreadable : ∀ path ∈ paths, files.IsReadable path)
    {groups : List (List String)} :
    List.Forall₂ (fun path group => expand files path = .ok group) paths groups ↔
      List.Forall₂ (StandsFor files) paths groups := by
  have hpath : ∀ path group, files.IsReadable path ∧ expand files path = .ok group ↔
      files.IsReadable path ∧ StandsFor files path group := by
    intro path group
    exact and_congr_right fun h => expand_eq_ok_iff_standsFor h
  have hpaths : List.Forall₂ (fun path group => files.IsReadable path ∧
      expand files path = .ok group) paths groups ↔
      List.Forall₂ (fun path group => files.IsReadable path ∧ StandsFor files path group)
        paths groups := by
    simp only [hpath]
  rw [List.forall₂_and_left, List.forall₂_and_left] at hpaths
  exact (and_congr_right_iff.mp hpaths) hreadable

theorem collect_eq_ok_iff_standFor (hreadable : ∀ path ∈ paths, files.IsReadable path)
    {found : List String} :
    collect files paths = .ok found ↔
      ∃ groups, List.Forall₂ (StandsFor files) paths groups ∧ found = groups.flatten := by
  rw [collect_eq_mapM]
  constructor
  · intro hcollect
    cases hgroups : paths.mapM (expand files) with
    | error error =>
        rw [hgroups] at hcollect
        cases hcollect
    | ok groups =>
        rw [hgroups] at hcollect
        have hfound : groups.flatten = found := Except.ok.inj hcollect
        exact ⟨groups, (forall₂_expand_iff hreadable).mp (mapM_eq_ok_iff.mp hgroups), hfound.symm⟩
  · rintro ⟨groups, hgroups, rfl⟩
    rw [mapM_eq_ok_iff.mpr ((forall₂_expand_iff hreadable).mpr hgroups)]
    rfl

theorem collect_eq_error_iff (hreadable : ∀ path ∈ paths, files.IsReadable path) {error : Error} :
    collect files paths = .error error ↔
      ∃ before path after, paths = before ++ path :: after ∧
        (∀ earlier ∈ before, ¬ files.LeadsNowhere earlier) ∧ files.LeadsNowhere path ∧
          error = .fileRead path .notFound := by
  rw [collect_eq_mapM, map_eq_error_iff, mapM_eq_error_iff]
  apply exists_congr
  intro before
  apply exists_congr
  intro path
  apply exists_congr
  intro after
  apply and_congr_right
  rintro rfl
  obtain ⟨hbefore, hrest⟩ := List.forall_mem_append.mp hreadable
  have hearlier : (∀ earlier ∈ before, ∃ group, expand files earlier = .ok group) ↔
      ∀ earlier ∈ before, ¬ files.LeadsNowhere earlier :=
    forall₂_congr fun earlier hmem => exists_expand_eq_ok_iff (hbefore earlier hmem)
  rw [hearlier, expand_eq_error_iff (hrest path List.mem_cons_self)]

/-- If directories can be read, paths are collected unless one of them leads nowhere, and then the
first such path is named.  What is collected are the files that the paths stand for, one path after
another, in whatever order the directories list their entries. -/
theorem collect_expands (hreadable : ∀ path ∈ paths, files.IsReadable path) :
    ((∃ error, collect files paths = .error error) ↔ ∃ path ∈ paths, files.LeadsNowhere path) ∧
    (∀ error, collect files paths = .error error ↔
      ∃ before path after, paths = before ++ path :: after ∧
        (∀ earlier ∈ before, ¬ files.LeadsNowhere earlier) ∧ files.LeadsNowhere path ∧
          error = .fileRead path .notFound) ∧
    (∀ found, collect files paths = .ok found ↔
      ∃ groups, List.Forall₂ (StandsFor files) paths groups ∧ found = groups.flatten) ∧
    ∀ other, files.Relists other → collect other paths = collect files paths := by
  refine ⟨?_, fun error => collect_eq_error_iff hreadable,
    fun found => collect_eq_ok_iff_standFor hreadable, ?_⟩
  · constructor
    · intro ⟨error, herror⟩
      obtain ⟨before, path, after, rfl, -, hnowhere, -⟩ :=
        (collect_eq_error_iff hreadable).mp herror
      exact ⟨path, List.mem_append_right before List.mem_cons_self, hnowhere⟩
    · intro ⟨path, hmem, hnowhere⟩
      cases hcollect : collect files paths with
      | error error => exact ⟨error, rfl⟩
      | ok found =>
          have hall := (collect_eq_ok_iff.mp hcollect).1 path hmem
          have hexpand := expand_eq_ok_iff.mpr ⟨hall, rfl⟩
          exact absurd hnowhere ((exists_expand_eq_ok_iff (hreadable path hmem)).mp ⟨_, hexpand⟩)
  · intro other hother
    rw [collect_eq_mapM, collect_eq_mapM, funext (expand_eq_of_relists hother)]

/-- Notes beside a directory of features. -/
def notedFeatures : FileSystem :=
  FileTree.toFileSystem
    ⟨[(["features", "b.feature"], some []), (["features", "a.feature"], some []),
      (["features", ".feature"], some []), (["features", "c.FEATURE"], some []),
      (["features", "old.feature", "d.feature"], some []), (["notes.txt"], some [])], []⟩

/-- Files are taken as often as they are given, and of a directory those with the extension. -/
theorem collect_expands_notedFeatures :
    (∀ path ∈ ["features", "notes.txt", "notes.txt"], notedFeatures.IsReadable path) ∧
    ∀ other, notedFeatures.Relists other →
      collect other ["features", "notes.txt", "notes.txt"] =
        .ok ["features/a.feature", "features/b.feature", "notes.txt", "notes.txt"] := by
  have hreadable : ∀ path ∈ ["features", "notes.txt", "notes.txt"],
      notedFeatures.IsReadable path := fun path _ => FileTree.isReadable _ path
  refine ⟨hreadable, ?_⟩
  intro other hother
  rw [(collect_expands hreadable).2.2.2 other hother]
  have hnotes : expand notedFeatures "notes.txt" = .ok ["notes.txt"] := rfl
  have hnode : notedFeatures.node "features" = .directory
      (.ok ["b.feature", "a.feature", ".feature", "c.FEATURE", "old.feature"]) := rfl
  have hkept : featureNames notedFeatures "features"
      ["b.feature", "a.feature", ".feature", "c.FEATURE", "old.feature"] =
        ["b.feature", "a.feature"] := rfl
  have hsorted : (["b.feature", "a.feature"].mergeSort fun first second =>
      decide (first ≤ second)) = ["a.feature", "b.feature"] := by
    simp [List.mergeSort]
  have hfeatures : expand notedFeatures "features" =
      .ok ["features/a.feature", "features/b.feature"] := by
    rw [expand, hnode]
    simp only [featureFiles, hkept, hsorted]
    rfl
  simp only [collect, hfeatures, hnotes]
  rfl

end Feature

end ServiceHealth

import ServiceHealth.Feature.Collection

/-!
# The files that paths stand for

A path stands for files if it leads to a file or to a directory that can be listed.
`collect_eq_ok_iff` says that paths can be collected exactly if each of them does, and
that their files are then those of one path after another.
-/

namespace ServiceHealth.Feature

variable {files : FileSystem}

/-- The path leads to a file or to a directory that can be listed. -/
def IsCollectible (files : FileSystem) (path : String) : Prop :=
  files.isFile path = true ∨ ∃ names, files.node path = .directory (.ok names)

/-- The files that a path stands for, if it stands for some. -/
def filesAt (files : FileSystem) (path : String) : List String :=
  match files.node path with
  | .directory (.ok names) => featureFiles files path names
  | .file _ => [path]
  | _ => []

/-- The files that paths stand for, one path after another. -/
def filesOf (files : FileSystem) (paths : List String) : List String :=
  paths.flatMap (filesAt files)

theorem expand_eq_ok_iff {path : String} {found : List String} :
    expand files path = .ok found ↔ IsCollectible files path ∧ found = filesAt files path := by
  unfold expand IsCollectible filesAt FileSystem.isFile
  cases files.node path with
  | absent fault => simp
  | file contents => simp [eq_comm]
  | special contents => simp
  | directory names =>
      cases names with
      | error detail => simp
      | ok names => simp [eq_comm]

/-- Paths can be collected if and only if each of them stands for files. -/
theorem collect_eq_ok_iff {paths found : List String} :
    collect files paths = .ok found ↔
      (∀ path ∈ paths, IsCollectible files path) ∧ found = filesOf files paths := by
  induction paths generalizing found with
  | nil => simp [collect, filesOf, eq_comm]
  | cons path paths ih =>
      rw [collect, List.forall_mem_cons, filesOf, List.flatMap_cons, ← filesOf]
      cases hexpand : expand files path with
      | error error =>
          have hnot : ¬ IsCollectible files path := by
            intro hpath
            rw [expand_eq_ok_iff.mpr ⟨hpath, rfl⟩] at hexpand
            cases hexpand
          simp [hnot]
      | ok head =>
          obtain ⟨hpath, rfl⟩ := expand_eq_ok_iff.mp hexpand
          cases hrest : collect files paths with
          | error error =>
              have hnot : ¬ ∀ path ∈ paths, IsCollectible files path := by
                intro hpaths
                rw [ih.mpr ⟨hpaths, rfl⟩] at hrest
                cases hrest
              simp [hnot]
          | ok tail =>
              obtain ⟨hpaths, rfl⟩ := ih.mp hrest
              constructor
              · intro h
                injection h with heq
                exact ⟨⟨hpath, hpaths⟩, heq.symm⟩
              · rintro ⟨-, rfl⟩
                rfl

/-- Paths after others that can be collected add their files. -/
theorem collect_append {first second found others : List String}
    (hfirst : collect files first = .ok found) (hsecond : collect files second = .ok others) :
    collect files (first ++ second) = .ok (found ++ others) := by
  rw [collect_eq_ok_iff] at hfirst hsecond ⊢
  obtain ⟨hpaths, rfl⟩ := hfirst
  obtain ⟨hmore, rfl⟩ := hsecond
  exact ⟨List.forall_mem_append.mpr ⟨hpaths, hmore⟩, List.flatMap_append.symm⟩

end ServiceHealth.Feature

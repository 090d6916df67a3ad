import ServiceHealth.Proofs.Error.Sequence
import ServiceHealth.Proofs.Settings.Documents
import ServiceHealth.Proofs.Text.Encoding
import ServiceHealth.Settings.Resolution

/-!
# Where the settings of a command come from

The settings of a command come from its configuration file, from the port in its
environment and from its command line, in this order.  A file that is of no use ends the
matter before the environment is looked at, and so does a port in the environment that is
none before the command line is.  If nothing is wrong, each setting has the value of the
last source that gives it, or its default, whatever the others are: `resolve_settles`.

* **The file.**  `UsesFile` says which file is read, and `FileGives` what it gives.
* **The environment.**  `PortReading` says what the port in the environment comes to.  Its
  bytes are looked at only if they are those of a text.
* **The command line.**  A port on the command line takes the place of every other one, but
  it does not keep the environment from being looked at: `resolve_overrides` states
  for which two values of the environment a command with such a port has the same settings,
  and `resolve_depends_on_environment` that there are two for which it has not.
-/

namespace ServiceHealth

/-! ## Texts in files -/

namespace FileSystem

/-- The bytes at a path are those of this text. -/
def HasText (files : FileSystem) (path text : String) : Prop :=
  files.read path = .ok (Text.Utf8.encode text)

/-- Nothing can be read at a path for this reason, or no text has the bytes there. -/
inductive IsUnreadable (files : FileSystem) (path : String) : FileFault → Prop
  | failed {fault : FileFault} (read : files.read path = .error fault) :
      IsUnreadable files path fault
  | notText {bytes : List UInt8} (read : files.read path = .ok bytes)
      (noText : ∀ text, bytes ≠ Text.Utf8.encode text) : IsUnreadable files path .notText

variable {files : FileSystem} {path : String}

theorem readText_eq_ok_iff {text : String} :
    files.readText path = .ok text ↔ files.HasText path text := by
  unfold readText HasText
  cases hread : files.read path with
  | error fault => simp
  | ok bytes =>
      rw [Except.ok.injEq, ← Text.Utf8.decode?_eq_some_iff]
      cases hdecode : Text.Utf8.decode? bytes <;> simp [hdecode]

theorem readText_eq_error_iff {error : Error} :
    files.readText path = .error error ↔
      ∃ fault, files.IsUnreadable path fault ∧ error = .fileRead path fault := by
  constructor
  · intro h
    unfold readText at h
    split at h
    · rename_i fault hread
      exact ⟨fault, .failed hread, (Except.error.inj h).symm⟩
    · rename_i bytes hread
      split at h
      · rename_i hdecode
        refine ⟨.notText, .notText hread ?_, (Except.error.inj h).symm⟩
        rintro text rfl
        rw [Text.Utf8.decode?_eq_some_iff.mpr rfl] at hdecode
        cases hdecode
      · cases h
  · rintro ⟨fault, hunreadable, rfl⟩
    cases hunreadable with
    | failed hread => simp only [readText, hread]
    | @notText bytes hread hnone =>
        have hdecode : Text.Utf8.decode? bytes = none := by
          rw [Option.eq_none_iff_forall_ne_some]
          exact fun text htext => hnone text (Text.Utf8.decode?_eq_some_iff.mp htext)
        simp only [readText, hread, hdecode]

end FileSystem

namespace Settings

/-! ## The configuration file -/

/-- The configuration file is the one that is asked for, or else the user's own if it is
there. -/
inductive UsesFile (files : FileSystem) (environment : Environment) :
    (configFile : Option String) → (path : String) → Prop
  | asked {path : String} : UsesFile files environment (some path) path
  | own {path : String} (location : environment.configPath? = some path)
      (present : files.isPresent path = true) : UsesFile files environment none path

/-- The configuration file gives these settings; without a file none are given. -/
inductive FileGives (files : FileSystem) (environment : Environment)
    (configFile : Option String) : Given → Prop
  | nothing (noFile : ∀ path, ¬ UsesFile files environment configFile path) :
      FileGives files environment configFile {}
  | inText {path text : String} {given : Given}
      (uses : UsesFile files environment configFile path) (hasText : files.HasText path text)
      (isInText : given.IsInText text) : FileGives files environment configFile given

section File

variable {files : FileSystem} {environment : Environment} {configFile : Option String}

/-- There is one configuration file at most. -/
theorem UsesFile.unique {path other : String} (h : UsesFile files environment configFile path)
    (hother : UsesFile files environment configFile other) : path = other := by
  cases h with
  | asked =>
      cases hother
      rfl
  | own hlocation =>
      cases hother with
      | own hother => exact Option.some.inj (hlocation.symm.trans hother)

theorem ofFiles_of_usesFile {path : String} (h : UsesFile files environment configFile path) :
    ofFiles files environment configFile = ofFile files path := by
  cases h with
  | asked => rfl
  | own hlocation hpresent => simp only [ofFiles, hlocation, Option.filter_some, hpresent, if_true]

theorem ofFiles_of_not_usesFile (h : ∀ path, ¬ UsesFile files environment configFile path) :
    ofFiles files environment configFile = .ok {} := by
  unfold ofFiles
  split
  · exact absurd .asked (h _)
  · split
    · rename_i path hpath
      obtain ⟨hlocation, hpresent⟩ := Option.filter_eq_some_iff.mp hpath
      exact absurd (.own hlocation hpresent) (h path)
    · rfl

/-- A file is used or none is. -/
theorem usesFile_or_not (files : FileSystem) (environment : Environment)
    (configFile : Option String) :
    (∃ path, UsesFile files environment configFile path) ∨
      ∀ path, ¬ UsesFile files environment configFile path := by
  rw [← not_exists]
  exact Classical.em _

theorem ofFile_eq_ok_iff {path : String} {settings : Settings} :
    ofFile files path = .ok settings ↔
      ∃ text, files.HasText path text ∧ ofText text = .ok settings := by
  simp only [← FileSystem.readText_eq_ok_iff]
  unfold ofFile
  cases files.readText path <;> simp

theorem ofFile_eq_error_iff {path : String} {error : Error} :
    ofFile files path = .error error ↔
      (∃ fault, files.IsUnreadable path fault ∧ error = .fileRead path fault) ∨
        ∃ text, files.HasText path text ∧ ofText text = .error error := by
  simp only [← FileSystem.readText_eq_ok_iff, ← FileSystem.readText_eq_error_iff]
  unfold ofFile
  cases files.readText path <;> simp

theorem ofFiles_eq_ok_iff {settings : Settings} :
    ofFiles files environment configFile = .ok settings ↔
      ∃ given, FileGives files environment configFile given ∧ settings = given.settings := by
  rcases usesFile_or_not files environment configFile with ⟨path, huses⟩ | hnone
  · rw [ofFiles_of_usesFile huses, ofFile_eq_ok_iff]
    constructor
    · rintro ⟨text, htext, hsettings⟩
      obtain ⟨given, hgiven, rfl⟩ := ofText_eq_ok_iff.mp hsettings
      exact ⟨given, .inText huses htext hgiven, rfl⟩
    · rintro ⟨given, hgives, rfl⟩
      cases hgives with
      | nothing hnone => exact absurd huses (hnone path)
      | inText hother htext hgiven =>
          obtain rfl := huses.unique hother
          exact ⟨_, htext, ofText_eq_ok_iff.mpr ⟨given, hgiven, rfl⟩⟩
  · rw [ofFiles_of_not_usesFile hnone]
    constructor
    · intro h
      obtain rfl := Except.ok.inj h
      exact ⟨{}, .nothing hnone, rfl⟩
    · rintro ⟨given, hgives, rfl⟩
      cases hgives with
      | nothing => rfl
      | inText huses => exact absurd huses (hnone _)

theorem ofFiles_eq_error_iff {error : Error} :
    ofFiles files environment configFile = .error error ↔
      ∃ path, UsesFile files environment configFile path ∧
        ((∃ fault, files.IsUnreadable path fault ∧ error = .fileRead path fault) ∨
          ∃ text, files.HasText path text ∧ ofText text = .error error) := by
  rcases usesFile_or_not files environment configFile with ⟨path, huses⟩ | hnone
  · rw [ofFiles_of_usesFile huses, ofFile_eq_error_iff]
    constructor
    · exact fun h => ⟨path, huses, h⟩
    · rintro ⟨other, hother, h⟩
      rwa [huses.unique hother]
  · rw [ofFiles_of_not_usesFile hnone]
    constructor
    · intro h
      cases h
    · rintro ⟨path, huses, -⟩
      exact absurd huses (hnone path)

end File

/-! ## The port in the environment -/

/-- What the port in the environment comes to.  It is ignored if it is not set, or if its
bytes are those of no text; a text gives a port or is at fault. -/
inductive PortReading (value : Option (List UInt8)) : Except Error (Option Port) → Prop
  | ignored (noText : ∀ raw, value ≠ some (Text.Utf8.encode raw)) : PortReading value (.ok none)
  | port {raw : String} {port : Port} (isText : value = some (Text.Utf8.encode raw))
      (reading : Port.Reading raw (.ok port)) : PortReading value (.ok (some port))
  | fault {raw : String} {error : Error} (isText : value = some (Text.Utf8.encode raw))
      (reading : Port.Reading raw (.error error)) : PortReading value (.error error)

/-- The port in the environment, if it has one. -/
def portOf (value : Option (List UInt8)) : Except Error (Option Port) :=
  match value.bind Text.Utf8.decode? with
  | none => .ok none
  | some raw => (Port.ofRaw raw).map some

theorem bind_decode?_eq_some_iff {value : Option (List UInt8)} {raw : String} :
    value.bind Text.Utf8.decode? = some raw ↔ value = some (Text.Utf8.encode raw) := by
  simp only [Option.bind_eq_some_iff, Text.Utf8.decode?_eq_some_iff]
  exact ⟨fun ⟨_, hvalue, hbytes⟩ => hbytes ▸ hvalue, fun hvalue => ⟨_, hvalue, rfl⟩⟩

theorem portOf_encode (raw : String) :
    portOf (some (Text.Utf8.encode raw)) = (Port.ofRaw raw).map some := by
  rw [portOf, bind_decode?_eq_some_iff.mpr rfl]

theorem portOf_eq_iff {value : Option (List UInt8)} {result : Except Error (Option Port)} :
    portOf value = result ↔ PortReading value result := by
  constructor
  · rintro rfl
    cases hraw : value.bind Text.Utf8.decode? with
    | none =>
        rw [portOf, hraw]
        refine .ignored fun raw hvalue => ?_
        rw [bind_decode?_eq_some_iff.mpr hvalue] at hraw
        cases hraw
    | some raw =>
        have hvalue := bind_decode?_eq_some_iff.mp hraw
        have hreading := Port.reading_ofRaw raw
        rw [hvalue, portOf_encode]
        cases hport : Port.ofRaw raw with
        | ok port => exact .port rfl (hport ▸ hreading)
        | error error => exact .fault rfl (hport ▸ hreading)
  · intro h
    cases h with
    | ignored hnone =>
        have hraw : value.bind Text.Utf8.decode? = none := by
          rw [Option.eq_none_iff_forall_ne_some]
          exact fun raw hraw => hnone raw (bind_decode?_eq_some_iff.mp hraw)
        rw [portOf, hraw]
    | port hvalue hreading =>
        rw [hvalue, portOf_encode, Port.ofRaw_eq_iff_reading.mpr hreading]
        rfl
    | fault hvalue hreading =>
        rw [hvalue, portOf_encode, Port.ofRaw_eq_iff_reading.mpr hreading]
        rfl

theorem withEnvironment_eq (settings : Settings) (environment : Environment) :
    settings.withEnvironment environment =
      (portOf environment.serverPort).map fun port =>
        settings.withPort (port.getD settings.server.port) := by
  unfold withEnvironment portOf
  rw [Environment.portText?]
  cases environment.serverPort.bind Text.Utf8.decode? with
  | none => rfl
  | some raw => cases hport : Port.ofRaw raw <;> simp [hport, Except.map]

/-! ## All sources -/

section Resolving

variable {files : FileSystem} {environment : Environment} {target : Target}

theorem resolve_eq_bind (files : FileSystem) (environment : Environment) (target : Target) :
    resolve files environment target =
      ofFiles files environment target.configFile >>= fun settings =>
        (portOf environment.serverPort).map fun port =>
          (settings.withPort (port.getD settings.server.port)).withTarget target := by
  simp only [resolve, withEnvironment_eq]
  cases ofFiles files environment target.configFile with
  | error error => rfl
  | ok settings => cases portOf environment.serverPort <;> rfl

theorem resolve_eq_error_iff {error : Error} :
    resolve files environment target = .error error ↔
      ofFiles files environment target.configFile = .error error ∨
        (∃ given, FileGives files environment target.configFile given) ∧
          PortReading environment.serverPort (.error error) := by
  simp only [resolve_eq_bind, bind_eq_error_iff, map_eq_error_iff, portOf_eq_iff,
    ofFiles_eq_ok_iff]
  constructor
  · rintro (hfile | ⟨_, ⟨given, hgives, -⟩, hport⟩)
    · exact .inl hfile
    · exact .inr ⟨⟨given, hgives⟩, hport⟩
  · rintro (hfile | ⟨⟨given, hgives⟩, hport⟩)
    · exact .inl hfile
    · exact .inr ⟨_, ⟨given, hgives, rfl⟩, hport⟩

/-- The settings that the sources give.  A host comes from the command line, else from the file
or its default; a port from the command line, else from the environment, else from the file or
its default; and every other setting from the file or its default. -/
def settled (given : Given) (environmentPort : Option Port) (target : Target) : Settings where
  server :=
    { host := target.host.getD given.settings.server.host
      port := (target.port.or environmentPort).getD given.settings.server.port }
  readiness := given.settings.readiness
  requests := given.settings.requests

theorem withTarget_eq_settled (given : Given) (environmentPort : Option Port) (target : Target) :
    (given.settings.withPort
      (environmentPort.getD given.settings.server.port)).withTarget target =
        settled given environmentPort target := by
  obtain ⟨port, host, configFile⟩ := target
  cases port <;> cases host <;> cases environmentPort <;> rfl

theorem resolve_eq_ok_iff {settings : Settings} :
    resolve files environment target = .ok settings ↔
      ∃ given port, FileGives files environment target.configFile given ∧
        PortReading environment.serverPort (.ok port) ∧ settings = settled given port target := by
  simp only [resolve_eq_bind, bind_eq_ok_iff, ofFiles_eq_ok_iff, ← portOf_eq_iff]
  constructor
  · rintro ⟨_, ⟨given, hgives, rfl⟩, hport⟩
    cases hvalue : portOf environment.serverPort with
    | error error =>
        rw [hvalue] at hport
        cases hport
    | ok port =>
        rw [hvalue] at hport
        obtain rfl := Except.ok.inj hport
        exact ⟨given, port, hgives, rfl, withTarget_eq_settled given port target⟩
  · rintro ⟨given, port, hgives, hport, rfl⟩
    refine ⟨_, ⟨given, hgives, rfl⟩, ?_⟩
    rw [hport, ← withTarget_eq_settled]
    rfl

/-! ## Keys that are not known -/

/-- What is at every path is the same, or a document with the same known keys. -/
structure SameSettings (files other : FileSystem) : Prop where
  present : ∀ path, files.isPresent path = other.isPresent path
  texts : ∀ path, files.readText path = other.readText path ∨
    ∃ text otherText document otherDocument,
      files.HasText path text ∧ other.HasText path otherText ∧
        Toml.read? text = some document ∧ Toml.read? otherText = some otherDocument ∧
          known document = known otherDocument

theorem ofEntries?_known (document : Toml.Entries) :
    ofEntries? (known document) = ofEntries? document := by
  apply Option.ext
  intro settings
  simp only [ofEntries?_eq_some_iff, Given.isIn_known_iff]

theorem SameSettings.ofFile_eq {files other : FileSystem} (h : SameSettings files other)
    (path : String) : ofFile files path = ofFile other path := by
  rcases h.texts path with hsame | ⟨text, otherText, document, otherDocument, htext, hother, hread,
    hotherRead, hknown⟩
  · rw [ofFile, ofFile, hsame]
  · have hentries : ofEntries? document = ofEntries? otherDocument := by
      rw [← ofEntries?_known document, hknown, ofEntries?_known]
    rw [ofFile, ofFile, FileSystem.readText_eq_ok_iff.mpr htext,
      FileSystem.readText_eq_ok_iff.mpr hother]
    simp only [ofText, hread, hotherRead, hentries]

/-- Keys that are not known make no difference. -/
theorem SameSettings.resolve_eq {files other : FileSystem} (h : SameSettings files other)
    (environment : Environment) (target : Target) :
    resolve files environment target = resolve other environment target := by
  have hpresent : files.isPresent = other.isPresent := funext h.present
  have hfiles : ofFiles files environment target.configFile =
      ofFiles other environment target.configFile := by
    simp only [ofFiles, hpresent, h.ofFile_eq]
  rw [resolve, resolve, hfiles]

/-! ## What a command's settings are -/

/-- How the settings of a command are settled, and what is wrong if they are not. -/
structure Settled (files : FileSystem) (environment : Environment) (target : Target)
    (result : Except Error Settings) : Prop where
  /-- The file comes first.  It cannot be read as a text. -/
  unreadable_iff : ∀ path fault, result = .error (.fileRead path fault) ↔
    UsesFile files environment target.configFile path ∧ files.IsUnreadable path fault
  /-- Or its text gives no settings. -/
  invalid_iff : (∃ detail, result = .error (.configFile detail)) ↔
    ∃ path text, UsesFile files environment target.configFile path ∧ files.HasText path text ∧
      ∀ given : Given, ¬ given.IsInText text
  /-- With a file that is in order, or without one, the environment comes next. -/
  portFault_iff : ∀ fault, result = .error (.setup fault) ↔
    (∃ given, FileGives files environment target.configFile given) ∧
      PortReading environment.serverPort (.error (.setup fault))
  /-- Nothing else can be wrong. -/
  error_cases : ∀ error, result = .error error → (∃ path fault, error = .fileRead path fault) ∨
    (∃ detail, error = .configFile detail) ∨ ∃ fault, error = .setup fault
  /-- If nothing is, each setting comes from the last source that gives it. -/
  settled_iff : ∀ settings, result = .ok settings ↔
    ∃ given port, FileGives files environment target.configFile given ∧
      PortReading environment.serverPort (.ok port) ∧ settings = settled given port target
  /-- Keys of the file that are not known make no difference. -/
  sameSettings : ∀ other, SameSettings files other →
    Settings.resolve other environment target = result

/-- A value of the environment is at fault only by being no port. -/
theorem exists_setup_of_portReading {value : Option (List UInt8)} {error : Error}
    (h : PortReading value (.error error)) : ∃ fault, error = .setup fault := by
  cases h with
  | fault _ hreading => cases hreading <;> exact ⟨_, rfl⟩

/-- What is wrong if the settings of a command cannot be settled. -/
theorem error_cases_of_resolve {error : Error}
    (h : resolve files environment target = .error error) :
    (∃ path fault, error = .fileRead path fault ∧
      UsesFile files environment target.configFile path ∧ files.IsUnreadable path fault) ∨
    (∃ detail path text, error = .configFile detail ∧
      UsesFile files environment target.configFile path ∧ files.HasText path text ∧
        ∀ given : Given, ¬ given.IsInText text) ∨
    ∃ fault, error = .setup fault ∧
      (∃ given, FileGives files environment target.configFile given) ∧
        PortReading environment.serverPort (.error (.setup fault)) := by
  rcases resolve_eq_error_iff.mp h with hfile | ⟨hgives, hport⟩
  · obtain ⟨path, huses, ⟨fault, hunreadable, rfl⟩ | ⟨text, htext, hinvalid⟩⟩ :=
      ofFiles_eq_error_iff.mp hfile
    · exact .inl ⟨path, fault, rfl, huses, hunreadable⟩
    · obtain ⟨detail, rfl⟩ := eq_configFile_of_ofText hinvalid
      exact .inr (.inl ⟨detail, path, text, rfl, huses, htext,
        exists_ofText_eq_error_iff.mp ⟨detail, hinvalid⟩⟩)
  · obtain ⟨fault, rfl⟩ := exists_setup_of_portReading hport
    exact .inr (.inr ⟨fault, rfl, hgives, hport⟩)

/-- The file, the environment and the command line settle the settings of a command, in this
order. -/
theorem resolve_settles (files : FileSystem) (environment : Environment) (target : Target) :
    Settled files environment target (Settings.resolve files environment target) where
  unreadable_iff path fault := by
    constructor
    · intro h
      rcases error_cases_of_resolve h with ⟨_, _, herror, huses, hunreadable⟩ |
        ⟨_, _, _, herror, -⟩ | ⟨_, herror, -⟩ <;> cases herror
      exact ⟨huses, hunreadable⟩
    · rintro ⟨huses, hunreadable⟩
      exact resolve_eq_error_iff.mpr
        (.inl (ofFiles_eq_error_iff.mpr ⟨path, huses, .inl ⟨fault, hunreadable, rfl⟩⟩))
  invalid_iff := by
    constructor
    · rintro ⟨detail, h⟩
      rcases error_cases_of_resolve h with ⟨_, _, herror, -⟩ | ⟨_, path, text, -, hinvalid⟩ |
        ⟨_, herror, -⟩
      · cases herror
      · exact ⟨path, text, hinvalid⟩
      · cases herror
    · rintro ⟨path, text, huses, htext, hnone⟩
      obtain ⟨detail, hinvalid⟩ := exists_ofText_eq_error_iff.mpr hnone
      exact ⟨detail, resolve_eq_error_iff.mpr
        (.inl (ofFiles_eq_error_iff.mpr ⟨path, huses, .inr ⟨text, htext, hinvalid⟩⟩))⟩
  portFault_iff fault := by
    constructor
    · intro h
      rcases error_cases_of_resolve h with ⟨_, _, herror, -⟩ | ⟨_, _, _, herror, -⟩ |
        ⟨_, herror, hport⟩ <;> cases herror
      exact hport
    · exact fun h => resolve_eq_error_iff.mpr (.inr h)
  error_cases error h := by
    rcases error_cases_of_resolve h with ⟨path, fault, herror, -⟩ | ⟨detail, _, _, herror, -⟩ |
      ⟨fault, herror, -⟩
    · exact .inl ⟨path, fault, herror⟩
    · exact .inr (.inl ⟨detail, herror⟩)
    · exact .inr (.inr ⟨fault, herror⟩)
  settled_iff _ := resolve_eq_ok_iff
  sameSettings other h := (h.resolve_eq environment target).symm

end Resolving

/-! ## A port on the command line -/

section Flagged

/-- A value of the environment that gives a port or is ignored. -/
def IsUsable (value : Option (List UInt8)) : Prop :=
  ∃ port, PortReading value (.ok port)

/-- The settings of a command with this port on its command line and this value in its
environment. -/
def resolveFlagged (files : FileSystem) (environment : Environment) (port : Port)
    (host configFile : Option String) (value : Option (List UInt8)) : Except Error Settings :=
  resolve files { environment with serverPort := value } ⟨some port, host, configFile⟩

/-- What a port on the command line takes the place of, and what it does not. -/
structure Overrides (files : FileSystem) (environment : Environment) (port : Port)
    (host configFile : Option String) : Prop where
  /-- The settings are settled if the file is in order and the value of the environment is
  usable. -/
  succeeds_iff : ∀ value,
    (∃ settings, resolveFlagged files environment port host configFile value = .ok settings) ↔
      (∃ given, FileGives files environment configFile given) ∧ IsUsable value
  /-- Then they have the port of the command line. -/
  port_eq : ∀ value settings,
    resolveFlagged files environment port host configFile value = .ok settings →
      settings.server.port = port
  /-- So two usable values make no difference.  Two that are not are told apart. -/
  same_iff : ∀ first second,
    resolveFlagged files environment port host configFile first =
        resolveFlagged files environment port host configFile second ↔
      (∀ given, ¬ FileGives files environment configFile given) ∨
        (IsUsable first ∧ IsUsable second) ∨ first = second

variable {files : FileSystem} {environment : Environment} {port : Port}
  {host configFile : Option String}

theorem UsesFile.withServerPort {path : String} (h : UsesFile files environment configFile path)
    (value : Option (List UInt8)) :
    UsesFile files { environment with serverPort := value } configFile path := by
  cases h with
  | asked => exact .asked
  | own hlocation hpresent => exact .own hlocation hpresent

/-- Which file is read does not depend on the port in the environment. -/
theorem FileGives.withServerPort {given : Given}
    (h : FileGives files environment configFile given) (value : Option (List UInt8)) :
    FileGives files { environment with serverPort := value } configFile given := by
  cases h with
  | nothing hnone =>
      exact .nothing fun path huses => hnone path (huses.withServerPort environment.serverPort)
  | inText huses htext hgiven => exact .inText (huses.withServerPort value) htext hgiven

theorem resolveFlagged_of_given {given : Given} (h : FileGives files environment configFile given)
    (value : Option (List UInt8)) :
    resolveFlagged files environment port host configFile value =
      (portOf value).map fun _ => settled given none ⟨some port, host, configFile⟩ := by
  have hfile : ofFiles files { environment with serverPort := value } configFile =
      .ok given.settings :=
    ofFiles_eq_ok_iff.mpr ⟨given, h.withServerPort value, rfl⟩
  rw [resolveFlagged, resolve_eq_bind, hfile]
  cases portOf value with
  | error error => rfl
  | ok environmentPort =>
      have hsettled := withTarget_eq_settled given environmentPort ⟨some port, host, configFile⟩
      exact congrArg Except.ok hsettled

/-- Without a file that is in order, the port in the environment is not looked at. -/
theorem resolveFlagged_of_not_given (h : ∀ given, ¬ FileGives files environment configFile given) :
    ∃ error, ∀ value, resolveFlagged files environment port host configFile value =
      .error error := by
  cases hfile : ofFiles files environment configFile with
  | ok settings =>
      obtain ⟨given, hgives, -⟩ := ofFiles_eq_ok_iff.mp hfile
      exact absurd hgives (h given)
  | error error =>
      refine ⟨error, fun value => ?_⟩
      have hsame : ofFiles files { environment with serverPort := value } configFile =
          .error error := hfile
      rw [resolveFlagged, resolve_eq_bind, hsame]
      rfl

/-- The error of a text that is no port names the text. -/
theorem raw_of_reading_error {raw : String} {error : Error}
    (h : Port.Reading raw (.error error)) :
    error = .setup (.portEmpty raw) ∨ ∃ value, error = .setup (.portInvalid value raw) := by
  cases h with
  | empty => exact .inl rfl
  | invalid => exact .inr ⟨_, rfl⟩

/-- Values that are at fault in the same way are the same. -/
theorem eq_of_portReading_error {first second : Option (List UInt8)} {error : Error}
    (hfirst : PortReading first (.error error)) (hsecond : PortReading second (.error error)) :
    first = second := by
  cases hfirst with
  | @fault raw _ hfirst hreading =>
      cases hsecond with
      | @fault other _ hsecond hother =>
          have hraw : raw = other := by
            have herror := raw_of_reading_error hother
            rcases raw_of_reading_error hreading with rfl | ⟨value, rfl⟩
            · simpa using herror
            · simpa using herror
          rw [hfirst, hsecond, hraw]

theorem isUsable_iff {value : Option (List UInt8)} :
    IsUsable value ↔ ∃ port, portOf value = .ok port := by
  simp only [IsUsable, portOf_eq_iff]

theorem resolveFlagged_succeeds_iff {value : Option (List UInt8)} :
    (∃ settings, resolveFlagged files environment port host configFile value = .ok settings) ↔
      (∃ given, FileGives files environment configFile given) ∧ IsUsable value := by
  rw [isUsable_iff]
  constructor
  · rintro ⟨settings, h⟩
    obtain ⟨given, environmentPort, hgives, hport, -⟩ := resolve_eq_ok_iff.mp h
    exact ⟨⟨given, hgives.withServerPort environment.serverPort⟩, environmentPort,
      portOf_eq_iff.mpr hport⟩
  · rintro ⟨⟨given, hgives⟩, environmentPort, hport⟩
    exact ⟨_, by rw [resolveFlagged_of_given hgives, hport]; rfl⟩

/-- Where the file is in order, two values make no difference if both are usable or if they are
the same. -/
theorem resolveFlagged_same_iff_of_given {given : Given}
    (hgives : FileGives files environment configFile given) {first second : Option (List UInt8)} :
    resolveFlagged files environment port host configFile first =
        resolveFlagged files environment port host configFile second ↔
      (IsUsable first ∧ IsUsable second) ∨ first = second := by
  rw [resolveFlagged_of_given hgives, resolveFlagged_of_given hgives, isUsable_iff, isUsable_iff]
  cases hfirst : portOf first with
  | ok firstPort =>
      cases hsecond : portOf second with
      | ok secondPort => simp [Except.map]
      | error error =>
          have hne : first ≠ second := by
            rintro rfl
            rw [hfirst] at hsecond
            cases hsecond
          simp [Except.map, hne]
  | error firstError =>
      cases hsecond : portOf second with
      | ok secondPort =>
          have hne : first ≠ second := by
            rintro rfl
            rw [hfirst] at hsecond
            cases hsecond
          simp [Except.map, hne]
      | error secondError =>
          simp only [Except.map, Except.error.injEq, reduceCtorEq, exists_false, false_and,
            false_or]
          constructor
          · rintro rfl
            exact eq_of_portReading_error (portOf_eq_iff.mp hfirst) (portOf_eq_iff.mp hsecond)
          · rintro rfl
            exact Except.error.inj (hfirst.symm.trans hsecond)

/-- A port on the command line takes the place of every usable value of the environment, and of
no other. -/
theorem resolve_overrides (files : FileSystem) (environment : Environment) (port : Port)
    (host configFile : Option String) : Overrides files environment port host configFile where
  succeeds_iff _ := resolveFlagged_succeeds_iff
  port_eq value settings h := by
    obtain ⟨given, environmentPort, -, -, rfl⟩ := resolve_eq_ok_iff.mp h
    rfl
  same_iff first second := by
    by_cases hgiven : ∃ given, FileGives files environment configFile given
    · obtain ⟨given, hgives⟩ := hgiven
      rw [resolveFlagged_same_iff_of_given hgives]
      exact (or_iff_right fun hnone => hnone given hgives).symm
    · rw [not_exists] at hgiven
      obtain ⟨error, herror⟩ := resolveFlagged_of_not_given hgiven
      rw [herror, herror]
      exact iff_of_true rfl (.inl hgiven)

/-- Where there is nothing. -/
def nothingThere : FileSystem :=
  ⟨fun _ => .absent .missing, fun _ => .error .missing⟩

/-- A port on the command line does not keep the environment from making a difference: without
a value in the environment there are settings, and with the value `http` there are none. -/
theorem resolve_depends_on_environment :
    ¬ ∀ (files : FileSystem) (environment : Environment) (port : Port)
      (host configFile : Option String) (first second : Option (List UInt8)),
      resolve files { environment with serverPort := first } ⟨some port, host, configFile⟩ =
        resolve files { environment with serverPort := second } ⟨some port, host, configFile⟩ := by
  intro h
  have hsame := h nothingThere ⟨none, none, none⟩ ⟨9100, by decide⟩ none none none
    (some (Text.Utf8.encode "http"))
  rw [resolve_eq_bind, resolve_eq_bind, portOf_encode] at hsame
  cases hsame

end Flagged

end Settings

end ServiceHealth

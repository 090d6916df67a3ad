import ServiceHealth.Settings.Basic
import ServiceHealth.Toml.Reader

/-!
# Settings in a configuration file

A configuration file is a TOML document with up to three sections, `server`,
`readiness` and `requests`.  A section is a table of settings by name, or an
array of their values in a fixed order.  A setting that is left out keeps its
default, one that is not known is ignored, and one of the wrong sort or out of
range makes the whole file invalid.  A section that is a date holds no setting.
-/

namespace ServiceHealth.Settings

/-- The largest value of a 32-bit setting. -/
def maxWord : Nat := 4294967295

/-- The largest value of a 64-bit setting. -/
def maxLong : Nat := 18446744073709551615

/-- The settings of one section, by name and by place. -/
structure Section where
  setting? : (name : String) → (place : Nat) → Option Toml

/-- A section that may be left out. -/
def Section.of? : Option Toml → Option Section
  | none => some ⟨fun _ _ => none⟩
  | some (.table _ entries) => some ⟨fun name _ => entries.lookup name⟩
  | some (.array items) => some ⟨fun _ place => items[place]?⟩
  | some (.tables reversed) => some ⟨fun _ place => reversed.reverse[place]?⟩
  | some .date => some ⟨fun _ _ => none⟩
  | some _ => none

/-- A setting that is a text. -/
def Section.text? (part : Section) (name : String) (place : Nat) (default : String) :
    Option String :=
  match part.setting? name place with
  | none => some default
  | some (.text value) => some value
  | some _ => none

/-- A setting that is a number up to a limit. -/
def Section.number? (part : Section) (name : String) (place limit default : Nat) : Option Nat :=
  match part.setting? name place with
  | none => some default
  | some (.integer value) =>
    if 0 ≤ value ∧ value ≤ limit then some value.toNat else none
  | some _ => none

/-- A setting that is a port. -/
def Section.port? (part : Section) (name : String) (place : Nat) (default : Port) : Option Port :=
  match part.setting? name place with
  | none => some default
  | some (.integer value) => if 0 ≤ value then Port.ofNat? value.toNat else none
  | some _ => none

/-- The section `server`. -/
def Server.of? (part : Section) : Option Server := do
  let default : Server := {}
  let host ← part.text? "host" 0 default.host
  let port ← part.port? "port" 1 default.port
  return ⟨host, port⟩

/-- The section `readiness`. -/
def Readiness.of? (part : Section) : Option Readiness := do
  let default : Readiness := {}
  let path ← part.text? "path" 0 default.path
  let maxAttempts ← part.number? "max_attempts" 1 maxWord default.maxAttempts
  let retryDelay ← part.number? "retry_delay_ms" 2 maxLong default.retryDelayMillis
  let probeTimeout ← part.number? "probe_timeout_secs" 3 maxLong default.probeTimeoutSecs
  return ⟨path, maxAttempts, retryDelay, probeTimeout⟩

/-- The section `requests`. -/
def Requests.of? (part : Section) : Option Requests := do
  let default : Requests := {}
  let timeout ← part.number? "timeout_secs" 0 maxLong default.timeoutSecs
  let concurrent ← part.number? "concurrent_timeout_secs" 1 maxLong default.concurrentTimeoutSecs
  return ⟨timeout, concurrent⟩

/-- The settings in the entries of a document. -/
def ofEntries? (document : Toml.Entries) : Option Settings := do
  let server ← (Section.of? (document.get? "server")).bind Server.of?
  let readiness ← (Section.of? (document.get? "readiness")).bind Readiness.of?
  let requests ← (Section.of? (document.get? "requests")).bind Requests.of?
  return ⟨server, readiness, requests⟩

/-- The settings that the text of a configuration file gives.  What a parser would report about
a text without settings, such as the place of the fault, is not modelled: the detail has one
wording for texts that are no document and one for values of the wrong sort. -/
def ofText (text : String) : Except Error Settings :=
  match Toml.read? text with
  | none => .error (.configFile "the text is not a TOML document")
  | some document =>
    match ofEntries? document with
    | none => .error (.configFile "a section or a setting has a value of the wrong sort")
    | some settings => .ok settings

end ServiceHealth.Settings

import Mathlib.Data.Option.Basic
import ServiceHealth.Proofs.Settings.PortTexts
import ServiceHealth.Settings.File

/-!
# The settings that a document gives

A document gives each of the eight settings or leaves it out, one apart from the others.
`Setting` says for one of them where it is written and which values it may have, and
`Given.IsIn` that a document gives these settings and no others.  `ofEntries?_eq_some_iff`
states that the settings of a document are those that it gives, with a default for each
one that it leaves out, and that it has none exactly if a section or a setting has a value
of the wrong sort.

Nothing else in a document makes a difference: `Given.isIn_known_iff` drops all other keys.
-/

namespace ServiceHealth.Settings

/-! ## One setting -/

/-- A setting of a configuration file: its section, its name there, its place in a section
that lists its settings in order, and the values that it may have. -/
structure Setting (α : Type) where
  part : String
  name : String
  place : Nat
  IsValue : Toml → α → Prop

/-- The value is this text. -/
def IsText (value : Toml) (text : String) : Prop :=
  value = .text text

/-- The value is this number, which is not above the limit. -/
def IsNumber (limit : Nat) (value : Toml) (n : Nat) : Prop :=
  value = .integer n ∧ n ≤ limit

/-- The value is the number of this port. -/
def IsPort (value : Toml) (port : Port) : Prop :=
  value = .integer port.number

namespace Setting

def host : Setting String := ⟨"server", "host", 0, IsText⟩

def port : Setting Port := ⟨"server", "port", 1, IsPort⟩

def path : Setting String := ⟨"readiness", "path", 0, IsText⟩

def maxAttempts : Setting Nat := ⟨"readiness", "max_attempts", 1, IsNumber maxWord⟩

def retryDelayMillis : Setting Nat := ⟨"readiness", "retry_delay_ms", 2, IsNumber maxLong⟩

def probeTimeoutSecs : Setting Nat := ⟨"readiness", "probe_timeout_secs", 3, IsNumber maxLong⟩

def timeoutSecs : Setting Nat := ⟨"requests", "timeout_secs", 0, IsNumber maxLong⟩

def concurrentTimeoutSecs : Setting Nat :=
  ⟨"requests", "concurrent_timeout_secs", 1, IsNumber maxLong⟩

end Setting

/-- What a section, if there is one, holds under a name or at a place.  A section is a table,
a list or a date, and a date holds nothing. -/
inductive Holds (name : String) (place : Nat) : (part : Option Toml) → Option Toml → Prop
  | leftOut : Holds name place none none
  | table {origin : Toml.Origin} {entries : Toml.Entries} :
      Holds name place (some (.table origin entries)) (entries.get? name)
  | array {items : List Toml} : Holds name place (some (.array items)) items[place]?
  | tables {reversed : List Toml} :
      Holds name place (some (.tables reversed)) reversed.reverse[place]?
  | date : Holds name place (some .date) none

/-- The document gives this value for the setting, or leaves it out. -/
def Setting.GivenBy {α : Type} (setting : Setting α) (document : Toml.Entries)
    (given : Option α) : Prop :=
  ∃ held, Holds setting.name setting.place (document.get? setting.part) held ∧
    Option.Rel setting.IsValue held given

/-! ## All settings -/

/-- Settings that are given, one by one. -/
structure Given where
  host : Option String := none
  port : Option Port := none
  path : Option String := none
  maxAttempts : Option Nat := none
  retryDelayMillis : Option Nat := none
  probeTimeoutSecs : Option Nat := none
  timeoutSecs : Option Nat := none
  concurrentTimeoutSecs : Option Nat := none

/-- The document gives these settings and leaves out the others. -/
structure Given.IsIn (given : Given) (document : Toml.Entries) : Prop where
  host : Setting.host.GivenBy document given.host
  port : Setting.port.GivenBy document given.port
  path : Setting.path.GivenBy document given.path
  maxAttempts : Setting.maxAttempts.GivenBy document given.maxAttempts
  retryDelayMillis : Setting.retryDelayMillis.GivenBy document given.retryDelayMillis
  probeTimeoutSecs : Setting.probeTimeoutSecs.GivenBy document given.probeTimeoutSecs
  timeoutSecs : Setting.timeoutSecs.GivenBy document given.timeoutSecs
  concurrentTimeoutSecs :
    Setting.concurrentTimeoutSecs.GivenBy document given.concurrentTimeoutSecs

/-- The settings that are given, and the default of each one that is not. -/
def Given.settings (given : Given) : Settings where
  server := ⟨given.host.getD "localhost", given.port.getD standardPort⟩
  readiness := ⟨given.path.getD "/ping", given.maxAttempts.getD 5,
    given.retryDelayMillis.getD 1000, given.probeTimeoutSecs.getD 2⟩
  requests := ⟨given.timeoutSecs.getD 2, given.concurrentTimeoutSecs.getD 5⟩

/-! ## Reading a section -/

section Reading

variable {part : Section} {name : String} {place : Nat}

theorem holds_iff {value : Option Toml} {held : Option Toml} :
    Holds name place value held ↔
      ∃ part, Section.of? value = some part ∧ part.setting? name place = held := by
  constructor
  · intro h
    cases h <;> exact ⟨_, rfl, rfl⟩
  · rintro ⟨part, hpart, rfl⟩
    unfold Section.of? at hpart
    split at hpart <;> cases hpart <;> constructor

/-- A setting that is left out has its default. -/
theorem exists_rel_none_iff {α : Type} {IsValue : Toml → α → Prop} {default x : α} :
    (∃ given, Option.Rel IsValue none given ∧ x = given.getD default) ↔ x = default := by
  constructor
  · rintro ⟨_, hgiven, rfl⟩
    cases hgiven
    rfl
  · rintro rfl
    exact ⟨none, .none, rfl⟩

/-- One that is not has one of its values. -/
theorem exists_rel_some_iff {α : Type} {IsValue : Toml → α → Prop} {value : Toml}
    {default x : α} :
    (∃ given, Option.Rel IsValue (some value) given ∧ x = given.getD default) ↔
      IsValue value x := by
  constructor
  · rintro ⟨_, hgiven, rfl⟩
    cases hgiven with
    | some hvalue => exact hvalue
  · intro hvalue
    exact ⟨some x, .some hvalue, rfl⟩

theorem text?_eq_some_iff {default text : String} :
    part.text? name place default = some text ↔
      ∃ given, Option.Rel IsText (part.setting? name place) given ∧ text = given.getD default := by
  unfold Section.text?
  split
  · rename_i hheld
    rw [hheld, exists_rel_none_iff, Option.some_inj, eq_comm]
  · rename_i value hheld
    rw [hheld, exists_rel_some_iff, IsText, Toml.text.injEq, Option.some_inj]
  · rename_i value hother hheld
    rw [hheld, exists_rel_some_iff, IsText]
    simpa using hother text

theorem number?_eq_some_iff {limit default n : Nat} :
    part.number? name place limit default = some n ↔
      ∃ given, Option.Rel (IsNumber limit) (part.setting? name place) given ∧
        n = given.getD default := by
  unfold Section.number?
  split
  · rename_i hheld
    rw [hheld, exists_rel_none_iff, Option.some_inj, eq_comm]
  · rename_i value hheld
    rw [hheld, exists_rel_some_iff, IsNumber, Toml.integer.injEq]
    split
    · rw [Option.some_inj]
      omega
    · simp only [reduceCtorEq, false_iff]
      omega
  · rename_i value hother hheld
    rw [hheld, exists_rel_some_iff, IsNumber]
    simpa using fun heq => absurd heq (hother n)

theorem port?_eq_some_iff {default port : Port} :
    part.port? name place default = some port ↔
      ∃ given, Option.Rel IsPort (part.setting? name place) given ∧
        port = given.getD default := by
  unfold Section.port?
  split
  · rename_i hheld
    rw [hheld, exists_rel_none_iff, Option.some_inj, eq_comm]
  · rename_i value hheld
    rw [hheld, exists_rel_some_iff, IsPort, Toml.integer.injEq]
    split
    · rw [Port.ofNat?_eq_some_iff]
      omega
    · simp only [reduceCtorEq, false_iff]
      omega
  · rename_i value hother hheld
    rw [hheld, exists_rel_some_iff, IsPort]
    simpa using hother port.number

theorem server_eq_some_iff {server : Server} :
    Server.of? part = some server ↔
      ∃ host port, Option.Rel IsText (part.setting? "host" 0) host ∧
        Option.Rel IsPort (part.setting? "port" 1) port ∧
        server = ⟨host.getD "localhost", port.getD standardPort⟩ := by
  simp only [Server.of?, Option.bind_eq_bind, Option.bind_eq_some_iff, text?_eq_some_iff,
    port?_eq_some_iff, Option.pure_def, Option.some_inj]
  constructor
  · rintro ⟨_, ⟨host, hhost, rfl⟩, _, ⟨port, hport, rfl⟩, rfl⟩
    exact ⟨host, port, hhost, hport, rfl⟩
  · rintro ⟨host, port, hhost, hport, rfl⟩
    exact ⟨_, ⟨host, hhost, rfl⟩, _, ⟨port, hport, rfl⟩, rfl⟩

theorem readiness_eq_some_iff {readiness : Readiness} :
    Readiness.of? part = some readiness ↔
      ∃ path maxAttempts retryDelay probeTimeout,
        Option.Rel IsText (part.setting? "path" 0) path ∧
        Option.Rel (IsNumber maxWord) (part.setting? "max_attempts" 1) maxAttempts ∧
        Option.Rel (IsNumber maxLong) (part.setting? "retry_delay_ms" 2) retryDelay ∧
        Option.Rel (IsNumber maxLong) (part.setting? "probe_timeout_secs" 3) probeTimeout ∧
        readiness = ⟨path.getD "/ping", maxAttempts.getD 5, retryDelay.getD 1000,
          probeTimeout.getD 2⟩ := by
  simp only [Readiness.of?, Option.bind_eq_bind, Option.bind_eq_some_iff, text?_eq_some_iff,
    number?_eq_some_iff, Option.pure_def, Option.some_inj]
  constructor
  · rintro ⟨_, ⟨path, hpath, rfl⟩, _, ⟨attempts, hattempts, rfl⟩, _, ⟨delay, hdelay, rfl⟩, _,
      ⟨timeout, htimeout, rfl⟩, rfl⟩
    exact ⟨path, attempts, delay, timeout, hpath, hattempts, hdelay, htimeout, rfl⟩
  · rintro ⟨path, attempts, delay, timeout, hpath, hattempts, hdelay, htimeout, rfl⟩
    exact ⟨_, ⟨path, hpath, rfl⟩, _, ⟨attempts, hattempts, rfl⟩, _, ⟨delay, hdelay, rfl⟩, _,
      ⟨timeout, htimeout, rfl⟩, rfl⟩

theorem requests_eq_some_iff {requests : Requests} :
    Requests.of? part = some requests ↔
      ∃ timeout concurrent,
        Option.Rel (IsNumber maxLong) (part.setting? "timeout_secs" 0) timeout ∧
        Option.Rel (IsNumber maxLong) (part.setting? "concurrent_timeout_secs" 1) concurrent ∧
        requests = ⟨timeout.getD 2, concurrent.getD 5⟩ := by
  simp only [Requests.of?, Option.bind_eq_bind, Option.bind_eq_some_iff, number?_eq_some_iff,
    Option.pure_def, Option.some_inj]
  constructor
  · rintro ⟨_, ⟨timeout, htimeout, rfl⟩, _, ⟨concurrent, hconcurrent, rfl⟩, rfl⟩
    exact ⟨timeout, concurrent, htimeout, hconcurrent, rfl⟩
  · rintro ⟨timeout, concurrent, htimeout, hconcurrent, rfl⟩
    exact ⟨_, ⟨timeout, htimeout, rfl⟩, _, ⟨concurrent, hconcurrent, rfl⟩, rfl⟩

end Reading

/-! ## Reading a document -/

section Reading

variable {document : Toml.Entries}

/-- In a section that can be read, a setting is given by what the section holds for it. -/
theorem Setting.givenBy_iff {α : Type} {setting : Setting α} {given : Option α} {part : Section}
    (hpart : Section.of? (document.get? setting.part) = some part) :
    setting.GivenBy document given ↔
      Option.Rel setting.IsValue (part.setting? setting.name setting.place) given := by
  simp only [GivenBy, holds_iff, hpart, Option.some_inj]
  constructor
  · rintro ⟨_, ⟨_, rfl, rfl⟩, hgiven⟩
    exact hgiven
  · intro hgiven
    exact ⟨_, ⟨_, rfl, rfl⟩, hgiven⟩

theorem Setting.GivenBy.exists_part {α : Type} {setting : Setting α} {given : Option α}
    (h : setting.GivenBy document given) :
    ∃ part, Section.of? (document.get? setting.part) = some part := by
  obtain ⟨_, hheld, -⟩ := h
  obtain ⟨part, hpart, -⟩ := holds_iff.mp hheld
  exact ⟨part, hpart⟩

/-- The settings of a document are those that it gives, and defaults. -/
theorem ofEntries?_eq_some_iff {settings : Settings} :
    ofEntries? document = some settings ↔
      ∃ given : Given, given.IsIn document ∧ settings = given.settings := by
  simp only [ofEntries?, Option.bind_eq_bind, Option.bind_eq_some_iff, server_eq_some_iff,
    readiness_eq_some_iff, requests_eq_some_iff, Option.pure_def, Option.some_inj]
  constructor
  · rintro ⟨_, ⟨server, hserver, host, port, hhost, hport, rfl⟩,
      _, ⟨readiness, hreadiness, path, attempts, delay, probe, hpath, hattempts, hdelay, hprobe,
        rfl⟩,
      _, ⟨requests, hrequests, timeout, concurrent, htimeout, hconcurrent, rfl⟩, rfl⟩
    refine ⟨⟨host, port, path, attempts, delay, probe, timeout, concurrent⟩, ?_, rfl⟩
    exact {
      host := (Setting.givenBy_iff hserver).mpr hhost
      port := (Setting.givenBy_iff hserver).mpr hport
      path := (Setting.givenBy_iff hreadiness).mpr hpath
      maxAttempts := (Setting.givenBy_iff hreadiness).mpr hattempts
      retryDelayMillis := (Setting.givenBy_iff hreadiness).mpr hdelay
      probeTimeoutSecs := (Setting.givenBy_iff hreadiness).mpr hprobe
      timeoutSecs := (Setting.givenBy_iff hrequests).mpr htimeout
      concurrentTimeoutSecs := (Setting.givenBy_iff hrequests).mpr hconcurrent }
  · rintro ⟨given, hgiven, rfl⟩
    obtain ⟨server, hserver⟩ : ∃ part, Section.of? (document.get? "server") = some part :=
      hgiven.host.exists_part
    obtain ⟨readiness, hreadiness⟩ : ∃ part, Section.of? (document.get? "readiness") = some part :=
      hgiven.path.exists_part
    obtain ⟨requests, hrequests⟩ : ∃ part, Section.of? (document.get? "requests") = some part :=
      hgiven.timeoutSecs.exists_part
    exact ⟨_, ⟨server, hserver, given.host, given.port,
        (Setting.givenBy_iff hserver).mp hgiven.host,
        (Setting.givenBy_iff hserver).mp hgiven.port, rfl⟩,
      _, ⟨readiness, hreadiness, given.path, given.maxAttempts, given.retryDelayMillis,
        given.probeTimeoutSecs,
        (Setting.givenBy_iff hreadiness).mp hgiven.path,
        (Setting.givenBy_iff hreadiness).mp hgiven.maxAttempts,
        (Setting.givenBy_iff hreadiness).mp hgiven.retryDelayMillis,
        (Setting.givenBy_iff hreadiness).mp hgiven.probeTimeoutSecs, rfl⟩,
      _, ⟨requests, hrequests, given.timeoutSecs, given.concurrentTimeoutSecs,
        (Setting.givenBy_iff hrequests).mp hgiven.timeoutSecs,
        (Setting.givenBy_iff hrequests).mp hgiven.concurrentTimeoutSecs, rfl⟩, rfl⟩

end Reading

/-! ## Other keys -/

/-- The names of the settings of a section. -/
def settingNames : (part : String) → List String
  | "server" => ["host", "port"]
  | "readiness" => ["path", "max_attempts", "retry_delay_ms", "probe_timeout_secs"]
  | "requests" => ["timeout_secs", "concurrent_timeout_secs"]
  | _ => []

/-- A section without the keys that are no settings of it. -/
def knownIn (part : String) : Toml → Toml
  | .table origin entries =>
    .table origin (entries.filter fun entry => entry.1 ∈ settingNames part)
  | value => value

/-- A document without the keys that are no sections, and its sections without the keys that
are no settings. -/
def known (document : Toml.Entries) : Toml.Entries :=
  (document.filter fun entry => settingNames entry.1 ≠ []).map fun entry =>
    (entry.1, knownIn entry.1 entry.2)

theorem lookup_filter {p : String → Bool} {key : String} (hkey : p key = true)
    (entries : Toml.Entries) :
    (entries.filter fun entry => p entry.1).lookup key = entries.lookup key := by
  induction entries with
  | nil => rfl
  | cons entry entries ih =>
      obtain ⟨name, value⟩ := entry
      by_cases hname : key = name
      · subst hname
        simp [hkey]
      · have hother : (key == name) = false := beq_eq_false_iff_ne.mpr hname
        cases hp : p name <;> simp [hp, List.lookup_cons, hother, ih]

theorem lookup_map (f : String → Toml → Toml) (key : String) (entries : Toml.Entries) :
    (entries.map fun entry => (entry.1, f entry.1 entry.2)).lookup key =
      (entries.lookup key).map (f key) := by
  induction entries with
  | nil => rfl
  | cons entry entries ih =>
      obtain ⟨name, value⟩ := entry
      by_cases hname : key = name
      · subst hname
        simp
      · have hother : (key == name) = false := beq_eq_false_iff_ne.mpr hname
        simp [List.lookup_cons, hother, ih]

theorem get?_known {part : String} (hpart : settingNames part ≠ []) (document : Toml.Entries) :
    (known document).get? part = (document.get? part).map (knownIn part) := by
  rw [Toml.Entries.get?, known, lookup_map,
    lookup_filter (p := fun key => decide (settingNames key ≠ [])) (decide_eq_true hpart)]
  rfl

theorem holds_knownIn_iff {part name : String} {place : Nat} {value held : Option Toml}
    (hname : name ∈ settingNames part) :
    Holds name place (value.map (knownIn part)) held ↔ Holds name place value held := by
  rcases value with _ | value
  · rfl
  · have hlookup (entries : Toml.Entries) :
        (entries.filter fun entry => entry.1 ∈ settingNames part).lookup name =
          entries.lookup name :=
      lookup_filter (p := fun key => decide (key ∈ settingNames part)) (decide_eq_true hname)
        entries
    cases value with
    | table origin entries =>
        simp only [Option.map_some, knownIn, holds_iff, Section.of?, Option.some_inj,
          exists_eq_left', hlookup]
    | _ => rfl

theorem Setting.givenBy_known_iff {α : Type} {setting : Setting α} {given : Option α}
    (hname : setting.name ∈ settingNames setting.part) (document : Toml.Entries) :
    setting.GivenBy (known document) given ↔ setting.GivenBy document given := by
  simp only [GivenBy, get?_known (List.ne_nil_of_mem hname), holds_knownIn_iff hname]

/-- Where every setting is given as in another document, the same settings are given. -/
theorem Given.IsIn.of_givenBy {given : Given} {document other : Toml.Entries}
    (h : given.IsIn document)
    (hsame : ∀ {α : Type} (setting : Setting α) (value : Option α),
      setting.name ∈ settingNames setting.part →
        setting.GivenBy document value → setting.GivenBy other value) :
    given.IsIn other where
  host := hsame _ _ (by decide) h.host
  port := hsame _ _ (by decide) h.port
  path := hsame _ _ (by decide) h.path
  maxAttempts := hsame _ _ (by decide) h.maxAttempts
  retryDelayMillis := hsame _ _ (by decide) h.retryDelayMillis
  probeTimeoutSecs := hsame _ _ (by decide) h.probeTimeoutSecs
  timeoutSecs := hsame _ _ (by decide) h.timeoutSecs
  concurrentTimeoutSecs := hsame _ _ (by decide) h.concurrentTimeoutSecs

/-- Keys that are neither sections nor settings make no difference. -/
theorem Given.isIn_known_iff {given : Given} {document : Toml.Entries} :
    given.IsIn (known document) ↔ given.IsIn document :=
  ⟨fun h => h.of_givenBy fun _ _ hname => (Setting.givenBy_known_iff hname document).mp,
    fun h => h.of_givenBy fun _ _ hname => (Setting.givenBy_known_iff hname document).mpr⟩

/-! ## Reading a text -/

/-- The text of a configuration file gives these settings. -/
def Given.IsInText (given : Given) (text : String) : Prop :=
  ∃ document, Toml.read? text = some document ∧ given.IsIn document

theorem ofText_eq_ok_iff {text : String} {settings : Settings} :
    ofText text = .ok settings ↔
      ∃ given : Given, given.IsInText text ∧ settings = given.settings := by
  have hdocument : ofText text = .ok settings ↔
      ∃ document, Toml.read? text = some document ∧ ofEntries? document = some settings := by
    unfold ofText
    cases hread : Toml.read? text with
    | none => simp
    | some document => cases hentries : ofEntries? document <;> simp [hentries]
  simp only [hdocument, ofEntries?_eq_some_iff, Given.IsInText]
  constructor
  · rintro ⟨document, hread, given, hgiven, rfl⟩
    exact ⟨given, ⟨document, hread, hgiven⟩, rfl⟩
  · rintro ⟨given, ⟨document, hread, hgiven⟩, rfl⟩
    exact ⟨document, hread, given, hgiven, rfl⟩

theorem eq_configFile_of_ofText {text : String} {error : Error} (h : ofText text = .error error) :
    ∃ detail, error = .configFile detail := by
  unfold ofText at h
  split at h
  · exact ⟨_, (Except.error.inj h).symm⟩
  · split at h
    · exact ⟨_, (Except.error.inj h).symm⟩
    · cases h

/-- A text that gives no settings is no configuration. -/
theorem exists_ofText_eq_error_iff {text : String} :
    (∃ detail, ofText text = .error (.configFile detail)) ↔
      ∀ given : Given, ¬ given.IsInText text := by
  constructor
  · rintro ⟨detail, herror⟩ given hgiven
    rw [ofText_eq_ok_iff.mpr ⟨given, hgiven, rfl⟩] at herror
    cases herror
  · intro hnone
    cases htext : ofText text with
    | ok settings =>
        obtain ⟨given, hgiven, -⟩ := ofText_eq_ok_iff.mp htext
        exact absurd hgiven (hnone given)
    | error error =>
        obtain ⟨detail, rfl⟩ := eq_configFile_of_ofText htext
        exact ⟨detail, rfl⟩

end ServiceHealth.Settings

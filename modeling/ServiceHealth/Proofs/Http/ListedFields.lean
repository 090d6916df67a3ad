import Mathlib.Data.List.Induction
import Mathlib.Data.List.Nodup
import ServiceHealth.Http.Wire
import ServiceHealth.Proofs.Order.Latest

/-!
# The header fields of a request

A request lists header fields with names in any case, some of them more than once, and is
sent with every name once.  Setting one field after another is described by an invariant:
what has been set holds the value that was listed last under each name, and nothing else
(`Holds.set`).  Whether the content type gets its default is decided on the list and not on
what has been set, and `sentFields_of_allowed` says that the two agree.

The first field that may not be listed stops everything (`sentFields_of_firstOffence`), and
there is one unless all of them may be (`allowed_or_firstOffence`).
-/

namespace ServiceHealth.Http

variable {listed before after : List (String × String)} {fields : RequestFields}
variable {field : String × String} {name value text : String} {fault : ArgumentFault}

/-! ## Fields that may be listed -/

/-- The name and the value are those of a header field. -/
def IsAllowed (field : String × String) : Prop :=
  isHeaderName field.1 = true ∧ isHeaderValue field.2 = true

/-- What is wrong with a field, as a fault and in words; the name counts before the value. -/
inductive Offence (field : String × String) : ArgumentFault → String → Prop
  | name (hname : isHeaderName field.1 = false) :
      Offence field (.headerName field.1)
        ("Invalid header name '" ++ field.1 ++ "': invalid HTTP header name")
  | value (hname : isHeaderName field.1 = true) (hvalue : isHeaderValue field.2 = false) :
      Offence field (.headerValue field.2)
        ("Invalid header value '" ++ field.2 ++ "': failed to parse header value")

/-- This is wrong with the first field that may not be listed. -/
def FirstOffence (listed : List (String × String)) (fault : ArgumentFault) (text : String) : Prop :=
  ∃ before field after, listed = before ++ field :: after ∧
    (∀ earlier ∈ before, IsAllowed earlier) ∧ Offence field fault text

theorem isAllowed_or_offence (field : String × String) :
    IsAllowed field ∨ ∃ fault text, Offence field fault text := by
  cases hname : isHeaderName field.1 with
  | false => exact .inr ⟨_, _, .name hname⟩
  | true =>
      cases hvalue : isHeaderValue field.2 with
      | false => exact .inr ⟨_, _, .value hname hvalue⟩
      | true => exact .inl ⟨hname, hvalue⟩

theorem allowed_or_firstOffence (listed : List (String × String)) :
    (∀ field ∈ listed, IsAllowed field) ∨ ∃ fault text, FirstOffence listed fault text := by
  induction listed with
  | nil => exact .inl (List.forall_mem_nil _)
  | cons first listed ih =>
      rcases isAllowed_or_offence first with hfirst | ⟨fault, text, hfirst⟩
      · rcases ih with hlisted | ⟨fault, text, before, field, after, rfl, hbefore, hfield⟩
        · exact .inl (List.forall_mem_cons.mpr ⟨hfirst, hlisted⟩)
        · have hearlier := List.forall_mem_cons.mpr ⟨hfirst, hbefore⟩
          exact .inr ⟨fault, text, first :: before, field, after, rfl, hearlier, hfield⟩
      · exact .inr ⟨fault, text, [], first, listed, rfl, List.forall_mem_nil _, hfirst⟩

theorem Offence.message (h : Offence field fault text) :
    (Error.stepArgument fault).message = "Invalid step argument: " ++ text := by
  cases h <;> rfl

theorem FirstOffence.message (h : FirstOffence listed fault text) :
    (Error.stepArgument fault).message = "Invalid step argument: " ++ text := by
  obtain ⟨before, field, after, -, -, hfield⟩ := h
  exact hfield.message

/-! ## The last value under a name -/

/-- This value was listed last under the name, which is in lower case, however it was spelled. -/
def LastListed (listed : List (String × String)) (name value : String) : Prop :=
  ∃ before spelling after, listed = before ++ (spelling, value) :: after ∧
    lowerCase spelling = name ∧ ∀ later ∈ after, lowerCase later.1 ≠ name

theorem lastListed_iff_exists_isLatest :
    LastListed listed name value ↔
      ∃ spelling, IsLatest (fun field => lowerCase field.1 = name) listed (spelling, value) :=
  exists_comm

theorem not_lastListed_nil : ¬ LastListed [] name value := by
  rw [lastListed_iff_exists_isLatest, not_exists]
  exact fun spelling => not_isLatest_nil

/-- A value at the end of the list counts under its own name only. -/
theorem lastListed_concat_iff {spelling last : String} :
    LastListed (listed ++ [(spelling, last)]) name value ↔
      (name, value) = (lowerCase spelling, last) ∨
        LastListed listed name value ∧ name ≠ lowerCase spelling := by
  have hname : lowerCase spelling = name ↔ name = lowerCase spelling := eq_comm
  simp only [lastListed_iff_exists_isLatest, isLatest_concat_iff, exists_or, exists_and_left,
    Prod.mk.injEq, exists_eq_left, hname, ne_eq]
  rw [and_comm (b := ∃ other, _)]

/-- A value that was listed last under a name was listed under it. -/
theorem LastListed.exists_mem (h : LastListed listed name value) :
    ∃ field ∈ listed, lowerCase field.1 = name := by
  obtain ⟨before, spelling, after, rfl, hname, -⟩ := h
  exact ⟨(spelling, value), by simp, hname⟩

/-! ## Setting fields one after another -/

namespace RequestFields

theorem mem_set : field ∈ fields.set name value ↔
    field = (lowerCase name, value) ∨ field ∈ fields ∧ field.1 ≠ lowerCase name := by
  simp only [set, List.mem_append, List.mem_filter, List.mem_singleton, bne_iff_ne, or_comm]

theorem nodup_set (h : (fields.map Prod.fst).Nodup) :
    ((fields.set name value).map Prod.fst).Nodup := by
  rw [set, List.map_append, List.nodup_append]
  refine ⟨h.sublist (List.filter_sublist.map Prod.fst), List.nodup_singleton _, ?_⟩
  intro kept hkept added hadded
  obtain ⟨field, hfield, rfl⟩ := List.mem_map.mp hkept
  obtain rfl : added = lowerCase name := by simpa using hadded
  simpa using (List.mem_filter.mp hfield).2

/-- Every name stands in the fields once, with the value that was listed last under it. -/
structure Holds (fields : RequestFields) (listed : List (String × String)) : Prop where
  nodup : (fields.map Prod.fst).Nodup
  mem_iff : ∀ name value, (name, value) ∈ fields ↔ LastListed listed name value

theorem holds_nil : Holds [] [] where
  nodup := List.nodup_nil
  mem_iff := by
    intro name value
    simp only [List.not_mem_nil, not_lastListed_nil]

/-- Setting the next field of the list keeps this. -/
theorem Holds.set (h : fields.Holds listed) :
    (fields.set name value).Holds (listed ++ [(name, value)]) where
  nodup := nodup_set h.nodup
  mem_iff := by
    intro other last
    rw [mem_set, lastListed_concat_iff, h.mem_iff]

/-- Sets one field, if it may be listed. -/
def setListed (fields : RequestFields) (field : String × String) : Except Error RequestFields :=
  if !isHeaderName field.1 then .error (.stepArgument (.headerName field.1))
  else if !isHeaderValue field.2 then .error (.stepArgument (.headerValue field.2))
  else .ok (fields.set field.1 field.2)

theorem ofList?_append (before after : List (String × String)) :
    ofList? (before ++ after) = ofList? before >>= fun fields => after.foldlM setListed fields :=
  List.foldlM_append

theorem setListed_of_isAllowed (h : IsAllowed field) :
    fields.setListed field = .ok (fields.set field.1 field.2) := by
  simp [setListed, h.1, h.2]

theorem setListed_of_offence (h : Offence field fault text) :
    fields.setListed field = .error (.stepArgument fault) := by
  cases h with
  | name hname => simp [setListed, hname]
  | value hname hvalue => simp [setListed, hname, hvalue]

/-- Fields that may be listed can be set, and the invariant holds of what is set. -/
theorem exists_ofList?_of_allowed (h : ∀ field ∈ listed, IsAllowed field) :
    ∃ fields, ofList? listed = .ok fields ∧ fields.Holds listed := by
  induction listed using List.reverseRecOn with
  | nil => exact ⟨[], rfl, holds_nil⟩
  | append_singleton listed field ih =>
      rw [List.forall_mem_append, List.forall_mem_singleton] at h
      obtain ⟨fields, hfields, hholds⟩ := ih h.1
      have hset : ofList? (listed ++ [field]) = .ok (fields.set field.1 field.2) := by
        rw [ofList?_append, hfields]
        change (fields.setListed field >>= pure) = _
        rw [setListed_of_isAllowed h.2]
        rfl
      exact ⟨_, hset, hholds.set⟩

theorem ofList?_of_firstOffence (h : FirstOffence listed fault text) :
    ofList? listed = .error (.stepArgument fault) := by
  obtain ⟨before, field, after, rfl, hbefore, hfield⟩ := h
  obtain ⟨fields, hfields, -⟩ := exists_ofList?_of_allowed hbefore
  rw [ofList?_append, hfields]
  change (fields.setListed field >>= fun fields => after.foldlM setListed fields) = _
  rw [setListed_of_offence hfield]
  rfl

end RequestFields

/-! ## What a request is sent with -/

namespace Request

variable {request : Request}

/-- There is a body, and its content type is not listed in any spelling. -/
def LacksContentType (request : Request) : Prop :=
  request.body.isSome = true ∧ ∀ field ∈ request.fields, lowerCase field.1 ≠ "content-type"

/-- The fields have every name once: the names that are listed, in lower case and with the value
that was listed last, and the content type of a body for which none is listed. -/
structure Carries (request : Request) (fields : RequestFields) : Prop where
  nodup : (fields.map Prod.fst).Nodup
  mem_iff : ∀ name value, (name, value) ∈ fields ↔
    LastListed request.fields name value ∨
      (name, value) = ("content-type", "application/json") ∧ request.LacksContentType

theorem namesContentType_eq_false_iff :
    request.namesContentType = false ↔
      ∀ field ∈ request.fields, lowerCase field.1 ≠ "content-type" := by
  simp [namesContentType, contentTypeName]

/-- Since no listed name is that of the content type, setting it leaves the other fields alone. -/
theorem carries_set_contentType (hlacks : request.LacksContentType)
    (hholds : fields.Holds request.fields) :
    request.Carries (fields.set contentTypeName defaultContentType) where
  nodup := RequestFields.nodup_set hholds.nodup
  mem_iff := by
    intro name value
    have hname : lowerCase contentTypeName = "content-type" := by decide
    have hother : LastListed request.fields name value → name ≠ "content-type" := by
      intro hlast
      obtain ⟨field, hfield, rfl⟩ := hlast.exists_mem
      exact hlacks.2 field hfield
    rw [RequestFields.mem_set, hname, hholds.mem_iff, and_iff_left_of_imp hother,
      and_iff_left hlacks, or_comm]
    rfl

theorem carries_of_holds (hlacks : ¬ request.LacksContentType)
    (hholds : fields.Holds request.fields) : request.Carries fields where
  nodup := hholds.nodup
  mem_iff := by
    intro name value
    rw [hholds.mem_iff, or_iff_left (fun h => hlacks h.2)]

theorem sentFields_of_allowed (h : ∀ field ∈ request.fields, IsAllowed field) :
    ∃ fields, request.sentFields = .ok fields ∧ request.Carries fields := by
  obtain ⟨fields, hfields, hholds⟩ := RequestFields.exists_ofList?_of_allowed h
  have hlacks : (request.body.isSome && !request.namesContentType) = true ↔
      request.LacksContentType := by
    rw [Bool.and_eq_true, Bool.not_eq_true', namesContentType_eq_false_iff, LacksContentType]
  rw [sentFields, hfields]
  by_cases hbody : request.LacksContentType
  · exact ⟨_, if_pos (hlacks.mpr hbody), carries_set_contentType hbody hholds⟩
  · exact ⟨_, if_neg (mt hlacks.mp hbody), carries_of_holds hbody hholds⟩

-- the second spelling of a name wins, and the body is announced as JSON
example :
    (Request.mk "POST" "/x" [("X-Id", "1"), ("x-ID", "2")] (some "[]")).sentFields =
      .ok [("x-id", "2"), ("content-type", "application/json")] := by
  cbv

theorem sentFields_of_firstOffence (h : FirstOffence request.fields fault text) :
    request.sentFields = .error (.stepArgument fault) := by
  rw [sentFields, RequestFields.ofList?_of_firstOffence h]
  rfl

end Request

/-! ## What goes out -/

/-- The fields of a call go out as they are, and what is added has other names. -/
theorem Call.nodup_allFields {call : Call} (h : (call.fields.map Prod.fst).Nodup) :
    (call.allFields.map Prod.fst).Nodup := by
  have hdefaults : (call.defaultFields.map Prod.fst).Nodup := by
    cases hauthorization : call.authorization <;> cases hbody : call.body <;>
      simp [defaultFields, hauthorization, hbody]
  have hlower : ∀ field ∈ call.defaultFields, lowerCase field.1 = field.1 := by
    cases hauthorization : call.authorization <;> cases hbody : call.body <;>
      simp [defaultFields, hauthorization, hbody] <;> decide
  rw [allFields, List.map_append, List.nodup_append]
  refine ⟨h, hdefaults.sublist (List.filter_sublist.map Prod.fst), ?_⟩
  intro name hname other hother hsame
  obtain ⟨field, hfield, rfl⟩ := List.mem_map.mp hname
  obtain ⟨added, hadded, rfl⟩ := List.mem_map.mp hother
  obtain ⟨hdefault, hmissing⟩ := List.mem_filter.mp hadded
  rw [Option.isNone_iff_eq_none, RequestFields.get?, hlower added hdefault,
    List.lookup_eq_none_iff] at hmissing
  simpa [hsame] using hmissing field hfield

end ServiceHealth.Http

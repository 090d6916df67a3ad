import ServiceHealth.Error.Basic

/-!
# The words of errors

A report holds the words of an error and not the error.  Most errors say something of their own
first: `begins_heading` gives these words, and `isArgumentError_message_iff` says that they tell the
errors about arguments from all others, whatever stands behind them.
-/

namespace ServiceHealth

/-- A text begins with what something is added to. -/
theorem toList_prefix_append {first text : String} (h : first.toList <+: text.toList)
    (rest : String) : first.toList <+: (text ++ rest).toList := by
  rw [String.toList_append]
  exact h.trans (List.prefix_append _ _)

namespace Error

/-- The words with which an error begins, whatever it is about. -/
def heading : Error → String
  | serverNotReady .. => "Failed to connect to server at "
  | assertion .. => "Assertion failed: "
  | missingPrecedent .. => "Missing precedent: no '"
  | undefinedStep .. => "Undefined step: "
  | ambiguousStep .. => "Ambiguous step '"
  | stepArgument .. => "Invalid step argument: "
  | setup .. => "Configuration error: "
  | configFile .. => "Invalid configuration file: "
  | fileRead .. => "Failed to read file '"
  | fileWrite .. => "Failed to open '"
  | featureSyntax .. => "Failed to parse feature file '"
  | io .. => "IO error: "
  | httpClient .. => "HTTP client error: "

theorem begins_heading (error : Error) : error.heading.toList <+: error.message.toList := by
  have hself : ∀ text : String, text.toList <+: text.toList := fun text => List.prefix_refl _
  cases error with
  | serverNotReady url port attempts lastFailure =>
      exact toList_prefix_append (toList_prefix_append (toList_prefix_append
        (toList_prefix_append (hself _) _) _) _) _
  | undefinedStep first second | ambiguousStep first second | fileRead first second
  | fileWrite first second | featureSyntax first second =>
      exact toList_prefix_append (toList_prefix_append (toList_prefix_append (hself _) _) _) _
  | missingPrecedent key => exact toList_prefix_append (toList_prefix_append (hself _) _) _
  | assertion cause | stepArgument cause | setup cause | configFile cause | io cause
  | httpClient cause =>
      exact toList_prefix_append (hself _) _

/-- The report is about an argument. -/
def IsArgumentError (text : String) : Prop :=
  ∃ detail, text = "Invalid step argument: " ++ detail

theorem isArgumentError_iff_begins {text : String} :
    IsArgumentError text ↔ "Invalid step argument: ".toList <+: text.toList := by
  constructor
  · rintro ⟨detail, rfl⟩
    exact toList_prefix_append (List.prefix_refl _) detail
  · rintro ⟨detail, hdetail⟩
    refine ⟨String.ofList detail, ?_⟩
    apply String.toList_injective
    have hrest : (String.ofList detail).toList = detail := String.toList_ofList
    rw [String.toList_append, hrest]
    exact hdetail.symm

/-- The other errors begin with other words. -/
theorem exists_fault_of_heading {error : Error}
    (h : "Invalid step argument: ".toList <+: error.heading.toList ∨
      error.heading.toList <+: "Invalid step argument: ".toList) :
    ∃ fault, error = .stepArgument fault := by
  cases error with
  | stepArgument fault => exact ⟨fault, rfl⟩
  | _ => exact absurd h (by simp only [heading]; decide)

theorem isArgumentError_message_iff {error : Error} :
    IsArgumentError error.message ↔ ∃ fault, error = .stepArgument fault := by
  constructor
  · intro hargument
    have hprefix := isArgumentError_iff_begins.mp hargument
    exact exists_fault_of_heading (List.prefix_or_prefix_of_prefix hprefix error.begins_heading)
  · rintro ⟨fault, rfl⟩
    exact ⟨fault.message, rfl⟩

end Error

end ServiceHealth

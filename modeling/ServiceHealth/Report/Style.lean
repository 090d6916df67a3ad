/-!
# Coloured text

A piece of printed text may be coloured.  In colour it stands between a sequence
that sets its style and one that resets it, and every reset inside the text is
followed by the style again.
-/

namespace ServiceHealth.Report

/-- The colours in use. -/
inductive Colour where
  | red
  | green
  | blue
  | cyan
  | white
  deriving DecidableEq, Repr

/-- The number that selects a colour. -/
def Colour.code : Colour → String
  | .red => "31"
  | .green => "32"
  | .blue => "34"
  | .cyan => "36"
  | .white => "37"

/-- How a piece of text looks. -/
inductive Style where
  | plain
  | coloured (colour : Colour)
  | bold (colour : Colour)
  | dimmed
  deriving DecidableEq, Repr

/-- The numbers that select a style; a plain text has none. -/
def Style.code? : Style → Option String
  | .plain => none
  | .coloured colour => some colour.code
  | .bold colour => some ("1;" ++ colour.code)
  | .dimmed => some "2"

/-- A piece of text and its style. -/
structure Span where
  style : Style
  text : String
  deriving DecidableEq, Repr

/-- The character that starts a control sequence. -/
def escapeChar : Char := Char.ofNat 27

/-- The sequence that resets the style. -/
def resetSequence : List Char :=
  [escapeChar, '[', '0', 'm']

/-- The text with a sequence after every reset in it. -/
def afterResets (sequence : List Char) (cs : List Char) : List Char :=
  match cs with
  | [] => []
  | a :: b :: c :: d :: rest =>
    if [a, b, c, d] = resetSequence then
      resetSequence ++ sequence ++ afterResets sequence rest
    else a :: afterResets sequence (b :: c :: d :: rest)
  | c :: rest => c :: afterResets sequence rest

/-- A piece of text, in colour or without. -/
def Span.render (colour : Bool) (span : Span) : String :=
  match colour, span.style.code? with
  | true, some code =>
    let sequence := escapeChar :: '[' :: code.toList ++ ['m']
    String.ofList (sequence ++ afterResets sequence span.text.toList ++ resetSequence)
  | _, _ => span.text

/-- Whether to print in colour: on a terminal, unless the environment says otherwise.
A variable is set to yes by every value but `0`. -/
def wantsColour (terminal : Bool) (forced forbidden allowed : Option String) : Bool :=
  if forced.any (· != "0") then true
  else if forbidden.isSome then false
  else terminal && allowed.all (· != "0")

/-- A text without a style. -/
def plain (text : String) : Span :=
  ⟨.plain, text⟩

end ServiceHealth.Report

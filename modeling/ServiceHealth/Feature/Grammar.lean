import ServiceHealth.Feature.Document
import ServiceHealth.Feature.Languages
import ServiceHealth.Feature.Reader

/-!
# The grammar of feature files

The grammar is ordered: of several alternatives the first that matches is taken,
and a repetition takes all it can.  Two mistakes make a file invalid at once: a
language that is not known, and a row of a table that is shorter than the first.
-/

namespace ServiceHealth.Feature

namespace Grammar

/-! ## Within a line -/

/-- The characters that are blank within a line. -/
def isWithinLine (c : Char) : Bool :=
  c == ' ' || c == '\t'

/-- Blanks within a line, if there are any. -/
def blanks : Reader Unit := do
  let _ ← Reader.run isWithinLine

/-- One blank within a line. -/
def blank : Reader Unit :=
  Reader.exactly " " <|> Reader.exactly "\t"

/-- The end of a line. -/
def lineEnd : Reader Unit :=
  Reader.exactly "\n" <|> Reader.exactly "\r\n"

/-- The characters up to the end of the line. -/
def upToLineEnd : List Char → List Char
  | [] => []
  | '\n' :: _ => []
  | '\r' :: '\n' :: _ => []
  | c :: cs => c :: upToLineEnd cs

/-- The rest of the line, possibly empty. -/
def restOfLine : Reader (List Char) := fun cursor =>
  let read := upToLineEnd cursor.rest
  .matched read (cursor.after read)

/-- The rest of the line, if it is not empty. -/
def someOfLine : Reader (List Char) := do
  let read ← restOfLine
  if read.isEmpty then Reader.refuse else return read

/-- A text without the blanks at its end. -/
def trimmedEnd (cs : List Char) : String :=
  String.ofList (Text.dropBlankEnd cs)

/-! ## Between lines -/

/-- A number sign and the rest of its line. -/
def signed : Reader Unit := do
  Reader.exactly "#"
  let _ ← restOfLine

/-- A comment up to the end of its line. -/
def remark : Reader Unit := do
  blanks
  signed

/-- The end of a line; a comment may stand before it. -/
def endOfLine : Reader Unit :=
  (do remark; lineEnd) <|> lineEnd

/-- Blanks, comments and ends of lines, as many as there are. -/
def gap : Reader Unit := do
  let _ ← Reader.many do
    blanks
    endOfLine
  blanks

/-- A gap that is not empty, or the end of the text. -/
def gapOrFinish : Reader Unit :=
  (do
    endOfLine <|> blank
    gap) <|> Reader.finish

/-- Ends of lines, as many as there are. -/
def ends : Reader Unit := do
  let _ ← endOfLine.many

/-- Comments and the gaps after them, as many as there are. -/
def comments : Reader Unit := do
  let _ ← Reader.many do
    remark
    gapOrFinish

/-! ## Keywords, tags, descriptions -/

/-- The first keyword of a list that stands here. -/
def keywordOf : List String → Reader String
  | [] => Reader.refuse
  | keyword :: others =>
    (do Reader.exactly keyword; return keyword) <|> keywordOf others

/-- The first keyword of a list that stands after comments, and its line. -/
def keyword (keywords : List String) : Reader (String × Nat) := do
  comments
  let number ← Reader.lineNumber
  let keyword ← keywordOf keywords
  return (keyword, number)

/-- The characters of a tag. -/
def isTagChar (c : Char) : Bool :=
  !Text.isBlank c && c != '@'

/-- A tag. -/
def tag : Reader Unit := do
  Reader.exactly "@"
  let _ ← Reader.run1 isTagChar

/-- Tags, if there are any, and the blanks and ends of lines after them. -/
def tags : Reader Unit := do
  let _ ← tag.separated gap
  blanks
  ends

/-- A line of a description. -/
def descriptionLine (stops : List String) : Reader Unit := do
  blanks
  (Reader.exactly "@").absent
  (keyword stops).absent
  blanks
  let _ ← someOfLine
  gapOrFinish

/-- A description: lines up to one that starts with a tag or one of some keywords. -/
def description (stops : List String) : Reader Unit := do
  let _ ← (descriptionLine stops).separated blanks
  gap

/-- A keyword with a colon and a title after it, up to the end of the line. -/
def heading (keywords : List String) : Reader (String × Nat) := do
  let (_, number) ← keyword keywords
  Reader.exactly ":"
  blanks
  let title ← someOfLine.optional
  blanks
  gapOrFinish
  return (trimmedEnd (title.getD []), number)

/-! ## Arguments of steps -/

/-- A character of a text over several lines; a comment with its line end counts as
one, so that a mark inside it does not end the text. -/
def quotedChar (mark : String) : Reader Unit := do
  (Reader.exactly mark).absent
  (do signed; lineEnd) <|> (do let _ ← Reader.anyChar)

/-- A text over several lines between two marks. -/
def quoted (mark : String) : Reader Unit := do
  Reader.exactly mark
  let _ ← (quotedChar mark).many
  Reader.exactly mark
  gapOrFinish

/-- A backtick. -/
def backtick : Char := Char.ofNat 0x60

/-- A text over several lines. -/
def docString : Reader Unit :=
  quoted "\"\"\"" <|> quoted (String.ofList [backtick, backtick, backtick])

/-- A cell of a table, with the bar before it; it ends at the next bar or with its line. -/
def cell : Reader Unit := do
  Reader.exactly "|"
  blanks
  (lineEnd <|> Reader.finish).absent
  fun cursor =>
    .matched () (cursor.after ((upToLineEnd cursor.rest).takeWhile (· != '|')))

/-- A row of a table, as the number of its cells. -/
def row : Reader Nat := do
  let cells ← cell.separated blanks
  blanks
  Reader.exactly "|"
  blanks
  gapOrFinish
  return cells.length

/-- No row is shorter than the first. -/
def isTable : List Nat → Bool
  | [] => true
  | first :: others => others.all (first ≤ ·)

/-- A table. -/
def table : Reader Unit := do
  let rows ← row.separated1 blanks
  if isTable rows then return () else Reader.abort

/-! ## Steps -/

/-- A step of a kind, with one of some keywords. -/
def stepOf (kind : Step.Kind) (keywords : List String) : Reader Document.Step := do
  let (keyword, number) ← keyword keywords
  blanks
  let text ← someOfLine
  blanks
  gapOrFinish
  blanks
  let _ ← docString.optional
  let _ ← table.optional
  return ⟨kind, keyword, trimmedEnd text, number⟩

/-- A step of the kind of the step before it; the first step cannot be one. -/
def stepLike (previous : Option Step.Kind) (keywords : List String) : Reader Document.Step :=
  match previous with
  | some kind => stepOf kind keywords
  | none => Reader.refuse

/-- A step, after a step of some kind. -/
def step (keywords : Keywords) (previous : Option Step.Kind) : Reader Document.Step :=
  stepOf .precondition keywords.precondition
    <|> stepOf .event keywords.event
    <|> stepOf .expectation keywords.expectation
    <|> stepLike previous keywords.conjunction
    <|> stepLike previous keywords.contrast

/-- Steps after a step of some kind, as many as there are, at most one for each character of a
text. -/
def stepsAfter (keywords : Keywords) : (limit : List Char) → (previous : Option Step.Kind) →
    Reader (List Document.Step)
  | [], _ => pure []
  | _ :: limit, previous =>
    (do
      blanks
      let step ← step keywords previous
      let others ← stepsAfter keywords limit (some step.kind)
      return step :: others) <|> pure []

/-- Steps, as many as there are. -/
def steps (keywords : Keywords) : Reader (List Document.Step) := fun cursor =>
  stepsAfter keywords ('\n' :: cursor.rest) none cursor

/-! ## Scenarios, rules, the feature -/

/-- A background. -/
def background (keywords : Keywords) : Reader (List Document.Step) := do
  comments
  blanks
  let _ ← heading keywords.background
  description keywords.afterScenario
  steps keywords

/-- A list of examples. -/
def examples (keywords : Keywords) : Reader Unit := do
  comments
  blanks
  tags
  blanks
  let _ ← heading keywords.examples
  description keywords.afterExamples
  let _ ← table.optional

/-- A scenario with one of some keywords. -/
def scenarioOf (form : Document.Form) (own : List String) (keywords : Keywords) :
    Reader Document.Scenario := do
  comments
  blanks
  tags
  blanks
  let (name, number) ← heading own
  description keywords.afterScenario
  let steps ← steps keywords
  let examples ← (examples keywords).many
  return ⟨form, name, number, steps, examples.length⟩

/-- A scenario. -/
def scenario (keywords : Keywords) : Reader Document.Scenario :=
  scenarioOf .example_ keywords.example_ keywords
    <|> scenarioOf .outline keywords.outline keywords

/-- Scenarios, as many as there are. -/
def scenarios (keywords : Keywords) : Reader (List Document.Scenario) := do
  blanks
  (scenario keywords).separated blanks

/-- A rule. -/
def rule (keywords : Keywords) : Reader Document.Rule := do
  blanks
  tags
  blanks
  let (name, _) ← heading keywords.rule
  description keywords.afterRule
  let background ← (background keywords).optional
  ends
  let scenarios ← scenarios keywords
  ends
  return ⟨name, background.getD [], scenarios⟩

/-- Rules, as many as there are. -/
def rules (keywords : Keywords) : Reader (List Document.Rule) := do
  blanks
  (rule keywords).separated blanks

/-- A comment that names the language of the file. -/
def language : Reader Keywords := do
  let _ ← (lineEnd <|> blank).many
  Reader.exactly "#"
  blanks
  Reader.exactly "language"
  blanks
  Reader.exactly ":"
  blanks
  let name ← someOfLine
  blanks
  endOfLine
  match Keywords.named? (String.ofList name) with
  | some keywords => return keywords
  | none => Reader.abort

/-- A whole file. -/
def document : Reader Document := do
  blanks
  let language ← language.optional
  let keywords := language.getD Keywords.english
  ends
  tags
  let (name, _) ← heading keywords.feature
  description keywords.afterFeature
  let background ← (background keywords).optional
  ends
  let scenarios ← scenarios keywords
  ends
  let rules ← rules keywords
  ends
  Reader.finish
  return ⟨name, background.getD [], scenarios, rules⟩

end Grammar

/-- The document of a text; a line end is added to the text if it has none at its end. -/
def Document.read? (text : String) : Option Document :=
  let cs := text.toList
  let cs := if cs.getLast? = some '\n' then cs else cs ++ ['\n']
  match Grammar.document (Cursor.start cs) with
  | .matched document _ => some document
  | _ => none

end ServiceHealth.Feature

import ServiceHealth.Error.Basic
import ServiceHealth.Text.DecimalDigit

/-!
# Timestamps

A timestamp is a date and a time of day in UTC to the second, written with
twenty characters as `YYYY-MM-DDTHH:MM:SSZ` with ASCII digits.  The form alone is
checked, not whether such a day or time exists.
-/

namespace ServiceHealth.Check

/-- What may stand at one place of a timestamp. -/
inductive TimestampPlace where
  | digit
  | mark (c : Char)

/-- The character may stand at the place. -/
def TimestampPlace.admits : TimestampPlace → Char → Bool
  | .digit, c => Text.isAsciiDigit c
  | .mark m, c => c == m

/-- The places of a timestamp in order. -/
def timestampPlaces : List TimestampPlace :=
  [.digit, .digit, .digit, .digit, .mark '-', .digit, .digit, .mark '-', .digit, .digit, .mark 'T',
    .digit, .digit, .mark ':', .digit, .digit, .mark ':', .digit, .digit, .mark 'Z']

/-- Each character may stand at its place, and no place or character is left over. -/
def admitsAll : List TimestampPlace → List Char → Bool
  | [], [] => true
  | place :: places, c :: cs => place.admits c && admitsAll places cs
  | _, _ => false

/-- The text has the form of a timestamp. -/
def isTimestamp (text : String) : Bool :=
  admitsAll timestampPlaces text.toList

/-- Checks that a text is a timestamp; an empty text is a failure of its own. -/
def hasTimestampForm (text : String) : Except Error Unit :=
  if text.isEmpty then Error.fail .timestampEmpty
  else if isTimestamp text then .ok ()
  else Error.fail (.timestampForm text)

end ServiceHealth.Check

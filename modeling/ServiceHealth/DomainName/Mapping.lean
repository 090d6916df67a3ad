import ServiceHealth.DomainName.MappingTable
import ServiceHealth.Text.Composition

/-!
# Mapping a domain name

A domain name is written in many ways, of which one is looked up: every character
is replaced by what it stands for, and the result is composed.
-/

namespace ServiceHealth.DomainName

open Text (given? inRuns)

/-- The character after this one. -/
def nextChar (c : Char) : Char :=
  Char.ofNat (c.toNat + 1)

/-- The character stands for the next one. -/
def standsForNext (c : Char) : Bool :=
  nextRuns.any fun run => run.holds c && (c.toNat - run.first) % 2 == 0

/-- The characters that one stands for, or nothing if it may not be in a domain name. -/
def mapChar? (c : Char) : Option (List Char) :=
  if standsForNext c then some [nextChar c]
  else if inRuns ignoredRuns c then some []
  else
    match given? shiftEntries c, given? replacementEntries c with
    | some entry, _ =>
      some (entry.codePoints.map fun first => Char.ofNat (first + (c.toNat - entry.run.first)))
    | none, some entry => some (entry.codePoints.map Char.ofNat)
    | none, none => if inRuns knownRuns c then some [c] else none

/-- The character stands for itself. -/
def isKept (c : Char) : Bool :=
  mapChar? c == some [c]

/-- A domain name as it is looked up, or nothing if a character may not be in one. -/
def mapped? (cs : List Char) : Option (List Char) :=
  (cs.mapM mapChar?).map fun parts => Text.composed parts.flatten

end ServiceHealth.DomainName

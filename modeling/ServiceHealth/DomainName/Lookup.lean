import ServiceHealth.DomainName.Label

/-!
# How a domain name is looked up

The domain name is mapped and divided at its points, and every label is brought to
ASCII.  In a name with two directions every label must have one of them.  Some
ASCII characters, which separate the parts of an address, stand in no domain name.
-/

namespace ServiceHealth.DomainName

/-- The character may not stand in a domain name, however it is written. -/
def isForbidden (c : Char) : Bool :=
  c.toNat ≤ 32 || c.toNat == 127 ||
    ['#', '%', '/', ':', '<', '>', '?', '@', '[', '\\', ']', '^', '|'].contains c

/-- The labels of a domain name. -/
def labels? (cs : List Char) : Option (List Label) := do
  let labels ← ((← mapped? cs).splitOn '.').mapM Label.read?
  if labels.any (·.chars.any turnsAround) && !labels.all Label.hasDirection then none
  else return labels

/-- The domain name in ASCII, or nothing if it is none. -/
def ascii? (cs : List Char) : Option (List Char) := do
  let ascii := ['.'].intercalate ((← labels? cs).map Label.ascii)
  if ascii.any isForbidden then none else return ascii

end ServiceHealth.DomainName

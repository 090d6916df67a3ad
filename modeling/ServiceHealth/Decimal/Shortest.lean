/-!
# The fewest digits that identify a double

A finite double stands for an interval of reals: those that round to it.  Of the
decimals in that interval the *shortest* is the one on the coarsest power-of-ten
grid; when two neighbours on that grid both lie in the interval, the nearer one
is taken, and a rule of the caller decides an exact tie.  Everything is computed
on natural numbers, so no rounding enters.
-/

namespace ServiceHealth.Decimal

/-- A finite double without its sign, as `significand * 2 ^ exponent`. -/
structure Magnitude where
  significand : Nat
  exponent : Int
  /-- The value is a power of two whose lower neighbour is half as far away as its upper one. -/
  narrowBelow : Bool

/-- The magnitude that the bits of a finite double encode. -/
def Magnitude.ofBits (bits : Nat) : Magnitude :=
  let biased : Nat := bits / Nat.pow 2 52 % Nat.pow 2 11
  let fraction : Nat := bits % Nat.pow 2 52
  if biased = 0 then ⟨fraction, -1074, false⟩
  else ⟨Nat.pow 2 52 + fraction, (biased : Int) - 1075, fraction == 0 && 1 < biased⟩

/-- A decimal `digits * 10 ^ exponent`. -/
structure Scaled where
  digits : Nat
  exponent : Int
  deriving DecidableEq, Repr

/-- Which of two equally near neighbours is taken. -/
inductive Tie where
  | toEven
  | upward
  deriving DecidableEq, Repr

/-- Compares `a * 10 ^ i` with `n * 2 ^ j`. -/
def compareScaled (a : Nat) (i : Int) (n : Nat) (j : Int) : Ordering :=
  compare (a * Nat.pow 10 i.toNat * Nat.pow 2 (-j).toNat)
    (n * Nat.pow 2 j.toNat * Nat.pow 10 (-i).toNat)

/-- The decimal lies among the reals that round to the magnitude, where the ends
of the interval belong to it exactly when the significand is even. -/
def Magnitude.roundsFrom (x : Magnitude) (d : Scaled) : Bool :=
  let low := if x.narrowBelow then 4 * x.significand - 1 else 4 * x.significand - 2
  let high := 4 * x.significand + 2
  let closed := x.significand % 2 == 0
  let atLow := compareScaled d.digits d.exponent low (x.exponent - 2)
  let atHigh := compareScaled d.digits d.exponent high (x.exponent - 2)
  (atLow == .gt || (closed && atLow == .eq)) && (atHigh == .lt || (closed && atHigh == .eq))

/-- The greatest point of the grid `10 ^ exponent` that is not above the magnitude. -/
def Magnitude.floorOn (x : Magnitude) (exponent : Int) : Nat :=
  (x.significand * Nat.pow 2 x.exponent.toNat * Nat.pow 10 (-exponent).toNat) /
    (Nat.pow 2 (-x.exponent).toNat * Nat.pow 10 exponent.toNat)

/-- Of the two neighbours `digits` and `digits + 1` on a grid, the nearer one. -/
def Magnitude.nearer (x : Magnitude) (tie : Tie) (digits : Nat) (exponent : Int) : Nat :=
  match compareScaled (2 * digits + 1) exponent (2 * x.significand) x.exponent with
  | .lt => digits + 1
  | .gt => digits
  | .eq =>
    match tie with
    | .upward => digits + 1
    | .toEven => if digits % 2 = 0 then digits else digits + 1

/-- The neighbour of the magnitude on the grid that identifies it, if there is one. -/
def Magnitude.onGrid? (x : Magnitude) (tie : Tie) (exponent : Int) : Option Scaled :=
  let below := x.floorOn exponent
  match x.roundsFrom ⟨below, exponent⟩, x.roundsFrom ⟨below + 1, exponent⟩ with
  | true, true => some ⟨x.nearer tie below exponent, exponent⟩
  | true, false => some ⟨below, exponent⟩
  | false, true => some ⟨below + 1, exponent⟩
  | false, false => none

/-- An exponent of a power of ten above the magnitude, from the length of its significand. -/
def Magnitude.ceilingExponent (x : Magnitude) : Int :=
  ((x.significand.log2 : Int) + 1 + x.exponent) * 30103 / 100000 + 2

/-- Tries the grids downwards from an exponent; the magnitude itself, written out
in full, stands in if none of them has a point in the interval. -/
def Magnitude.search (x : Magnitude) (tie : Tie) : Nat → Int → Scaled
  | 0, _ => ⟨x.significand * Nat.pow 2 x.exponent.toNat * Nat.pow 5 (-x.exponent).toNat,
      min x.exponent 0⟩
  | grids + 1, exponent =>
    match x.onGrid? tie exponent with
    | some d => d
    | none => x.search tie grids (exponent - 1)

/-- The shortest decimal that rounds to the magnitude: the grids from above the
value down to its seventeenth digit are tried. -/
def Magnitude.shortest (x : Magnitude) (tie : Tie) : Scaled :=
  x.search tie 24 x.ceilingExponent

end ServiceHealth.Decimal

/-! # The shortest decimal of a binary number

A double stands for every real that rounds to it. Among the decimals in that interval the shortest
is the point of the coarsest power-of-ten grid that has a point there, and of several such points
the one nearest to the double itself. All of it is computed with whole numbers.
-/

namespace Scl.Decimal

/-- A positive number `significand * 2 ^ exponent`. -/
structure Binary where
  significand : Nat
  exponent : Int
  deriving DecidableEq, Repr

/-- A positive number `digits * 10 ^ exponent`. -/
structure Scaled where
  digits : Nat
  exponent : Int
  deriving DecidableEq, Repr

namespace Binary

/-- The least significand of 53 bits, at which the gap between doubles doubles. -/
def leastFull : Nat := Nat.pow 2 52

/-- The exponent of the smallest doubles. -/
def leastExponent : Int := -1074

def isGapChange (x : Binary) : Bool :=
  x.significand == leastFull && x.exponent > leastExponent

/-- Four times the significand, and the ends of the interval that rounds to it on that scale. -/
def interval (x : Binary) : Nat × Nat × Nat :=
  let value := 4 * x.significand
  (value - (if x.isGapChange then 1 else 2), value, value + 2)

/-- Whether a decimal point of the grid `10 ^ power` rounds to the number, and if so the nearest
such point. Both the interval and the grid are brought to whole numbers first. -/
def nearestOnGrid? (x : Binary) (power : Int) : Option Scaled :=
  let (low, value, high) := x.interval
  let factor := Nat.pow 2 (x.exponent - 2).toNat * Nat.pow 10 (-power).toNat
  let spacing := Nat.pow 2 (2 - x.exponent).toNat * Nat.pow 10 power.toNat
  let endsCount := x.significand % 2 == 0
  let rounds (digits : Nat) : Bool :=
    let point := digits * spacing
    if endsCount then low * factor ≤ point && point ≤ high * factor
    else low * factor < point && point < high * factor
  let below := value * factor / spacing
  let remainder := value * factor % spacing
  let belowFirst :=
    2 * remainder < spacing || (2 * remainder == spacing && below % 2 == 0)
  let candidates := if belowFirst then [below, below + 1] else [below + 1, below]
  (candidates.find? rounds).map fun digits => ⟨digits, power⟩

/-- The powers of ten of the grids, from the coarsest that a double can need to the finest. -/
def gridPowers : List Int :=
  (List.range 700).map fun step : Nat => 310 - Int.ofNat step

/-- The shortest decimal that rounds to the number. -/
def shortest (x : Binary) : Scaled :=
  (gridPowers.findSome? x.nearestOnGrid?).getD ⟨x.significand, 0⟩

end Binary

end Scl.Decimal

import Scl.Decimal.Shortest

/-! # Doubles as text

A double is written with the fewest digits that read back as the same double. From `1e-5` up to,
but not including, `1e16` the digits stand around the decimal point, with at least one digit on
each side of it; smaller and larger numbers are written with an exponent.
-/

namespace Scl.Decimal

def zeros (count : Nat) : String :=
  String.ofList (List.replicate count '0')

namespace Scaled

/-- The power of ten of the first digit. -/
def magnitude (x : Scaled) : Int :=
  x.exponent + Int.ofNat (toString x.digits).length - 1

/-- The digits around the decimal point. -/
def positional (x : Scaled) : String :=
  let digits := toString x.digits
  if 0 ≤ x.exponent then digits ++ zeros x.exponent.toNat ++ ".0"
  else
    let places := (-x.exponent).toNat
    let padded := zeros (places + 1 - digits.length) ++ digits
    let whole := padded.toList.length - places
    String.ofList (padded.toList.take whole) ++ "." ++ String.ofList (padded.toList.drop whole)

/-- One digit, the others behind the point if there are any, and the exponent with its sign. -/
def scientific (x : Scaled) : String :=
  let digits := (toString x.digits).toList
  let fraction := digits.drop 1
  let point := if fraction.isEmpty then [] else ['.']
  let sign := if x.magnitude < 0 then "-" else "+"
  String.ofList (digits.take 1 ++ point ++ fraction) ++ "e" ++ sign ++
    toString x.magnitude.natAbs

def render (x : Scaled) : String :=
  if -5 ≤ x.magnitude ∧ x.magnitude < 16 then x.positional else x.scientific

end Scaled

/-- The number of values of the exponent bits of a double. -/
def exponentCount : Nat := Nat.pow 2 11

/-- The magnitude of a double from its bits, unless it is zero or no finite number. -/
def ofBits? (bits : UInt64) : Option Binary :=
  let fraction := bits.toNat % Binary.leastFull
  let exponent : Nat := bits.toNat / Binary.leastFull % exponentCount
  if exponent + 1 = exponentCount ∨ (exponent = 0 ∧ fraction = 0) then none
  else if exponent = 0 then some ⟨fraction, Binary.leastExponent⟩
  else some ⟨fraction + Binary.leastFull, Binary.leastExponent + exponent - 1⟩

def isNegative (bits : UInt64) : Bool :=
  exponentCount * Binary.leastFull ≤ bits.toNat

/-- A double as text. -/
def ofFloat (x : Float) : String :=
  let sign := if isNegative x.toBits then "-" else ""
  match ofBits? x.toBits with
  | some binary => sign ++ binary.shortest.render
  | none => if x == 0 then sign ++ "0.0" else if x == x then sign ++ "inf" else "NaN"

end Scl.Decimal

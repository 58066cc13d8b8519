import Scl.Decimal
import Scl.Json.Reader

/-! # Numbers in JSON text

No part of a token file or a name file is a number, so a number is read only to say what stands in
the place of another value. Whole numbers that fit 64 bits stay exact. All others become doubles:
the digits that fit 64 bits, scaled by a power of ten in double arithmetic.
-/

namespace Scl.Json

def isDigit (byte : UInt8) : Bool :=
  '0'.toUInt8 ≤ byte && byte ≤ '9'.toUInt8

def digitValue (digit : UInt8) : Nat :=
  digit.toNat - '0'.toNat

/-- Appends digits to a number as long as it stays within a limit. Gives the number and the digits
left over. -/
def appendDigits (limit : Nat) : Nat → List UInt8 → Nat × List UInt8
  | number, [] => (number, [])
  | number, digit :: digits =>
    let longer := number * 10 + digitValue digit
    if limit < longer then (number, digit :: digits) else appendDigits limit longer digits

/-- The largest number of 64 bits. -/
def significandLimit : Nat := Nat.pow 2 64 - 1

/-- The largest magnitude of a negative number of 64 bits. -/
def negativeLimit : Nat := Nat.pow 2 63

/-- The largest exponent that is read as one. -/
def exponentLimit : Nat := Nat.pow 2 31 - 1

/-- The largest power of ten that is a double. -/
def largestPower : Nat := 308

def powerOfTen (exponent : Nat) : Float :=
  Float.ofScientific 1 false exponent

/-- A double divided by a power of ten, in as many divisions as that takes. -/
def scaleDown (x : Float) (exponent : Nat) : Float :=
  if exponent ≤ largestPower then x / powerOfTen exponent
  else if x == 0 then x
  else scaleDown (x / powerOfTen largestPower) (exponent - largestPower)
termination_by exponent
decreasing_by simp [largestPower] at *; omega

/-- A double multiplied by a power of ten, if the product is finite. -/
def scaleUp? (x : Float) (exponent : Nat) : Option Float :=
  if exponent ≤ largestPower then
    let product := x * powerOfTen exponent
    if product.isInf then none else some product
  else if x == 0 then some x
  else none

/-- The double nearest to a number of 64 bits. -/
def wholeFloat (number : Nat) : Float :=
  number.toUInt64.toFloat

def signedDecimal (negative : Bool) (x : Float) : Found :=
  .decimal (Decimal.ofFloat (if negative then -x else x))

namespace Reader

/-- The number `significand * 10 ^ exponent` as a double, which has to be finite. -/
def scaled (negative : Bool) (significand : Nat) (exponent : Int) : Reader Found :=
  let x := wholeFloat significand
  if exponent < 0 then return signedDecimal negative (scaleDown x exponent.natAbs)
  else
    match scaleUp? x exponent.natAbs with
    | some product => return signedDecimal negative product
    | none => fail .numberOutOfRange

def isExponentMark (byte : UInt8) : Bool :=
  byte == 'e'.toUInt8 || byte == 'E'.toUInt8

/-- Takes the sign of an exponent, if there is one, and tells whether it is negative. -/
def exponentSign : Reader Bool := do
  let sign ← peek
  if sign == some '-'.toUInt8 then
    skip
    return true
  else if sign == some '+'.toUInt8 then
    skip
    return false
  else return false

def digit (atEnd : Cause) : Reader UInt8 := do
  match ← next with
  | none => fail atEnd
  | some byte => if isDigit byte then return byte else fail .invalidNumber

/-- Reads an exponent from its mark on. An exponent that is too large to be read ends the reading
at once if the number is out of range, and leaves a zero otherwise. -/
def exponentPart (isNegative : Bool) (significand : Nat) (shift : Int) : Reader Found := do
  skip
  let downward ← exponentSign
  let first ← digit .endInValue
  let digits ← aheadWhile isDigit
  match appendDigits exponentLimit (digitValue first) digits with
  | (exponent, []) =>
    let _ ← takeWhile isDigit
    scaled isNegative significand (if downward then shift - exponent else shift + exponent)
  | (_, _ :: left) =>
    let _ ← take (digits.length - left.length)
    if significand ≠ 0 ∧ !downward then fail .numberOutOfRange
    let _ ← takeWhile isDigit
    return signedDecimal isNegative 0

/-- Reads on behind the digits of a number: an exponent, or nothing. -/
def afterDigits (isNegative : Bool) (significand : Nat) (shift : Int) : Reader Found := do
  match ← peek with
  | some byte =>
    if isExponentMark byte then exponentPart isNegative significand shift
    else scaled isNegative significand shift
  | none => scaled isNegative significand shift

def fractionPart (isNegative : Bool) (significand : Nat) (shift : Int) : Reader Found := do
  skip
  let digits ← takeWhile isDigit
  if digits.isEmpty then
    failAhead (if (← peek).isNone then .endInValue else .invalidNumber)
  let (longer, left) := appendDigits significandLimit significand digits
  afterDigits isNegative longer (shift - Int.ofNat (digits.length - left.length))

/-- A whole number that fits 64 bits, as its text says it. -/
def whole (isNegative : Bool) (significand : Nat) : Found :=
  if !isNegative then .natural significand
  else if significand ≠ 0 ∧ significand ≤ negativeLimit then .negative significand
  else signedDecimal true (wholeFloat significand)

def number (isNegative : Bool) : Reader Found := do
  let first ← digit .endInValue
  let digits ← if first = '0'.toUInt8 then pure [] else takeWhile isDigit
  let after ← peek
  if first = '0'.toUInt8 ∧ after.any isDigit then failAhead .invalidNumber
  let (significand, left) := appendDigits significandLimit (digitValue first) digits
  if after == some '.'.toUInt8 then fractionPart isNegative significand left.length
  else if after.any isExponentMark then exponentPart isNegative significand left.length
  else if left.isEmpty then return whole isNegative significand
  else scaled isNegative significand left.length

end Reader

end Scl.Json

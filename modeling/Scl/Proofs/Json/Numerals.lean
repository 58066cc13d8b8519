import Scl.Json.Skip
import Scl.Proofs.Json.Settled
import Scl.Proofs.Json.Syntax

/-! # Numbers in front of what may follow them

A number ends where the next byte cannot belong to it. In front of what may follow a value it is
therefore skipped as a whole, and its bytes settle how it is read where another value was wanted:
the number that a message names, or that it is out of range.
-/

namespace Scl.Json

open Reader

def digitByte (digit : Fin 10) : UInt8 :=
  (Nat.digitChar digit.val).toUInt8

theorem utf8EncodeChar_digitChar : ∀ digit : Fin 10,
    String.utf8EncodeChar (Nat.digitChar digit.val) = [digitByte digit] := by
  decide

theorem isDigit_digitByte : ∀ digit : Fin 10, isDigit (digitByte digit) = true := by
  decide

theorem digitByte_eq_zero_iff : ∀ digit : Fin 10, digitByte digit = '0'.toUInt8 ↔ digit = 0 := by
  decide

/-- The first byte of a number that is not negative starts nothing else. -/
theorem digitByte_starts (digit : Fin 10) :
    digitByte digit ∉ ['n'.toUInt8, 't'.toUInt8, 'f'.toUInt8, '-'.toUInt8, quote] ∧
      isBlank (digitByte digit) = false ∧ ∀ bracket, digitByte digit ≠ Bracket.opening bracket := by
  have every : ∀ digit : Fin 10,
      digitByte digit ∉ ['n'.toUInt8, 't'.toUInt8, 'f'.toUInt8, '-'.toUInt8, quote] ∧
        isBlank (digitByte digit) = false ∧ digitByte digit ≠ Bracket.opening .list ∧
        digitByte digit ≠ Bracket.opening .object := by
    decide
  obtain ⟨others, shown, list, object⟩ := every digit
  refine ⟨others, shown, fun bracket => ?_⟩
  cases bracket with
  | list => exact list
  | object => exact object

namespace Digits

def bytes (digits : Digits) : List UInt8 :=
  digitByte digits.first :: digits.others.map digitByte

theorem encodeUtf8_write (digits : Digits) : Text.encodeUtf8 digits.write = digits.bytes :=
  Text.encodeUtf8_ofList_map utf8EncodeChar_digitChar _

theorem isDigit_of_mem {digits : List (Fin 10)} :
    ∀ byte ∈ digits.map digitByte, isDigit byte = true := by
  intro byte member
  obtain ⟨digit, _, rfl⟩ := List.mem_map.mp member
  exact isDigit_digitByte digit

end Digits

def fractionBytes (fraction? : Option Digits) : List UInt8 :=
  fraction?.elim [] fun digits => '.'.toUInt8 :: digits.bytes

def signBytes (minus? : Option Bool) : List UInt8 :=
  minus?.elim [] fun minus => [if minus then '-'.toUInt8 else '+'.toUInt8]

namespace Exponent

/-- The byte that starts an exponent. -/
def mark (exponent : Exponent) : UInt8 :=
  if exponent.capital then 'E'.toUInt8 else 'e'.toUInt8

def bytes (exponent : Exponent) : List UInt8 :=
  exponent.mark :: (signBytes exponent.minus? ++ exponent.digits.bytes)

theorem encodeUtf8_write (exponent : Exponent) :
    Text.encodeUtf8 exponent.write = exponent.bytes := by
  have start : Text.encodeUtf8 (if exponent.capital then "E" else "e") = [exponent.mark] := by
    unfold mark
    cases exponent.capital <;> decide
  have sign : Text.encodeUtf8
      (exponent.minus?.elim "" fun minus => if minus then "-" else "+") =
        signBytes exponent.minus? := by
    rcases exponent.minus? with _ | _ | _ <;> decide
  rw [write, Text.encodeUtf8_append, Text.encodeUtf8_append, start, sign,
    exponent.digits.encodeUtf8_write]
  rfl

end Exponent

def exponentBytes (exponent? : Option Exponent) : List UInt8 :=
  exponent?.elim [] Exponent.bytes

namespace Numeral

/-- The bytes of a number behind its sign. -/
def magnitude (numeral : Numeral) : List UInt8 :=
  numeral.whole.bytes ++ (fractionBytes numeral.fraction? ++ exponentBytes numeral.exponent?)

theorem encodeUtf8_write (numeral : Numeral) :
    Text.encodeUtf8 numeral.write =
      (if numeral.negative then ['-'.toUInt8] else []) ++ numeral.magnitude := by
  obtain ⟨negative, whole, single, fraction?, exponent?⟩ := numeral
  have sign : Text.encodeUtf8 (if negative then "-" else "") =
      if negative then ['-'.toUInt8] else [] := by
    cases negative <;> decide
  have fraction : Text.encodeUtf8 (fraction?.elim "" ("." ++ ·.write)) =
      fractionBytes fraction? := by
    cases fraction? with
    | none => rfl
    | some digits =>
      have point : Text.encodeUtf8 "." = ['.'.toUInt8] := by decide
      rw [Option.elim_some, Text.encodeUtf8_append, point, digits.encodeUtf8_write]
      rfl
  have exponent : Text.encodeUtf8 (exponent?.elim "" Exponent.write) =
      exponentBytes exponent? := by
    cases exponent? with
    | none => rfl
    | some exponent => exact exponent.encodeUtf8_write
  simp only [write, Text.encodeUtf8_append, sign, fraction, exponent, whole.encodeUtf8_write,
    magnitude, List.append_assoc]

end Numeral

section Ends

theorem head?_ne {bytes : List UInt8} {byte : UInt8}
    (differs : ∀ other ∈ bytes.head?, other ≠ byte) : (bytes.head? == some byte) = false := by
  cases bytes with
  | nil => rfl
  | cons other bytes => simpa using differs other rfl

theorem any_head? {bytes : List UInt8} {test : UInt8 → Bool}
    (stops : ∀ byte ∈ bytes.head?, test byte = false) : bytes.head?.any test = false := by
  cases bytes with
  | nil => rfl
  | cons byte bytes => exact stops byte rfl

variable {rest : List UInt8} {exponent? : Option Exponent} {fraction? : Option Digits}

/-- What may follow a value does not go on with a number. -/
theorem Reader.Delimited.ends (delimited : Delimited rest) :
    ∀ byte ∈ rest.head?,
      isDigit byte = false ∧ byte ≠ '.'.toUInt8 ∧ isExponentMark byte = false := by
  intro byte here
  rcases delimited byte here with blank | rfl | ⟨bracket, rfl⟩
  · simp only [isBlank, Bool.or_eq_true, beq_iff_eq] at blank
    rcases blank with ((rfl | rfl) | rfl) | rfl <;> decide
  · decide
  · cases bracket <;> decide

/-- What may follow a value ends the digits of a number. -/
theorem Reader.Delimited.stops (delimited : Delimited rest) :
    ∀ byte ∈ rest.head?, isDigit byte = false :=
  fun byte here => (delimited.ends byte here).1

theorem Exponent.mark_ends (exponent : Exponent) :
    isDigit exponent.mark = false ∧ exponent.mark ≠ '.'.toUInt8 ∧
      isExponentMark exponent.mark = true := by
  unfold mark
  cases exponent.capital <;> decide

theorem ends_exponent (delimited : Delimited rest) :
    ∀ byte ∈ (exponentBytes exponent? ++ rest).head?,
      isDigit byte = false ∧ byte ≠ '.'.toUInt8 := by
  intro byte here
  cases exponent? with
  | none =>
    obtain ⟨notDigit, notPoint, _⟩ := delimited.ends byte here
    exact ⟨notDigit, notPoint⟩
  | some exponent =>
    obtain rfl := Option.some.inj here
    obtain ⟨notDigit, notPoint, _⟩ := exponent.mark_ends
    exact ⟨notDigit, notPoint⟩

theorem ends_fraction (delimited : Delimited rest) :
    ∀ byte ∈ (fractionBytes fraction? ++ (exponentBytes exponent? ++ rest)).head?,
      isDigit byte = false := by
  intro byte here
  cases fraction? with
  | none => exact (ends_exponent delimited byte here).1
  | some digits =>
    obtain rfl := Option.some.inj here
    decide

end Ends

section Steps

variable {rest : List UInt8}

theorem reads_digit (cause : Cause) (value : Fin 10) :
    Reads (· = digitByte value :: rest) (digit cause) (digitByte value) (· = rest) := by
  refine reads_next.bind ?_
  simp only [isDigit_digitByte, if_true]
  exact .pure _

theorem reads_digits (digits : List (Fin 10))
    (stops : ∀ byte ∈ rest.head?, isDigit byte = false) :
    Reads (· = digits.map digitByte ++ rest) (takeWhile isDigit) (digits.map digitByte)
      (· = rest) :=
  reads_takeWhile Digits.isDigit_of_mem stops

/-- The sign of an exponent is taken if it is there; a digit is none. -/
theorem reads_exponentSign (minus? : Option Bool) (digits : Digits) :
    Reads (· = signBytes minus? ++ (digits.bytes ++ rest)) exponentSign (minus?.getD false)
      (· = digits.bytes ++ rest) := by
  refine reads_look.bind ?_
  cases minus? with
  | some minus =>
    cases minus with
    | true => exact reads_skip.bind (.pure true)
    | false => exact reads_skip.bind (.pure false)
  | none =>
    have noSign : ∀ digit : Fin 10,
        digitByte digit ≠ '-'.toUInt8 ∧ digitByte digit ≠ '+'.toUInt8 := by
      decide
    obtain ⟨notMinus, notPlus⟩ := noSign digits.first
    simp only [signBytes, Option.elim_none, List.nil_append, Digits.bytes, List.cons_append,
      List.head?_cons, Option.some_beq_some, beq_iff_eq, notMinus, notPlus, if_false]
    exact .pure false

end Steps

section Skip

variable {rest : List UInt8}

theorem reads_skipExponent (exponent? : Option Exponent) (delimited : Delimited rest) :
    Reads (· = exponentBytes exponent? ++ rest) skipExponent () (· = rest) := by
  refine reads_look.bind ?_
  cases exponent? with
  | none =>
    have none : rest.head?.any isExponentMark = false :=
      any_head? fun byte here => (delimited.ends byte here).2.2
    change Reads (· = rest) (if rest.head?.any isExponentMark then _ else pure ()) () (· = rest)
    rw [none]
    exact .pure ()
  | some exponent =>
    obtain ⟨_, _, marks⟩ := exponent.mark_ends
    have stops : ∀ byte ∈ rest.head?, isDigit byte = false :=
      fun byte here => (delimited.ends byte here).1
    simp only [exponentBytes, Option.elim_some, Exponent.bytes, List.cons_append,
      List.append_assoc, List.head?_cons, Option.any_some, marks, if_true]
    refine reads_skip.bind ?_
    refine (reads_exponentSign _ exponent.digits).bind ?_
    refine (reads_digit _ exponent.digits.first).bind ?_
    exact (reads_digits exponent.digits.others stops).bind (.pure ())

theorem reads_skipFraction (fraction? : Option Digits) {others : List UInt8}
    (ends : ∀ byte ∈ others.head?, isDigit byte = false ∧ byte ≠ '.'.toUInt8) :
    Reads (· = fractionBytes fraction? ++ others) skipFraction () (· = others) := by
  refine reads_look.bind ?_
  cases fraction? with
  | none =>
    have none : (others.head? == some '.'.toUInt8) = false :=
      head?_ne fun byte here => (ends byte here).2
    change Reads (· = others) (if others.head? == some '.'.toUInt8 then _ else pure ()) ()
      (· = others)
    rw [none]
    exact .pure ()
  | some digits =>
    have stops : ∀ byte ∈ others.head?, isDigit byte = false :=
      fun byte here => (ends byte here).1
    simp only [fractionBytes, Option.elim_some, List.cons_append, List.head?_cons, beq_self_eq_true,
      if_true]
    refine reads_skip.bind ?_
    refine (reads_digits (digits.first :: digits.others) stops).bind ?_
    exact .pure ()

/-- A number is skipped behind its first digit. -/
theorem reads_skipNumber (numeral : Numeral) (delimited : Delimited rest) :
    Reads
      (· = numeral.whole.others.map digitByte ++ (fractionBytes numeral.fraction? ++
        (exponentBytes numeral.exponent? ++ rest)))
      (skipNumber (digitByte numeral.whole.first)) () (· = rest) := by
  have stops : ∀ byte ∈ (fractionBytes numeral.fraction? ++
      (exponentBytes numeral.exponent? ++ rest)).head?, isDigit byte = false :=
    ends_fraction delimited
  have behind : Reads (· = fractionBytes numeral.fraction? ++
      (exponentBytes numeral.exponent? ++ rest)) (skipFraction >>= fun _ => skipExponent) ()
      (· = rest) :=
    (reads_skipFraction _ (ends_exponent delimited)).bind (reads_skipExponent _ delimited)
  unfold skipNumber
  dsimp only
  split
  · next zero =>
    rw [digitByte_eq_zero_iff] at zero
    rw [numeral.single zero]
    refine reads_look.bind ?_
    rw [List.map_nil, List.nil_append, any_head? stops]
    exact behind
  · refine (reads_digits _ stops).bind ?_
    exact behind

end Skip

section Found

variable {follow : List UInt8 → Prop} (isNegative : Bool) (significand : Nat) (shift : Int)

theorem settled_scaled : Settled follow [] (scaled isNegative significand shift) := by
  unfold scaled
  dsimp only
  split
  · exact settled_pure _
  · split
    · exact settled_pure _
    · exact settled_fail _

/-- The digits of an exponent settle whether it is too large to be read. -/
theorem settled_exponentDigits (downward : Bool) (number : Nat) (digits : List (Fin 10)) :
    Settled Delimited (digits.map digitByte) (do
      let digits ← aheadWhile isDigit
      match appendDigits exponentLimit number digits with
      | (exponent, []) =>
        let _ ← takeWhile isDigit
        scaled isNegative significand (if downward then shift - exponent else shift + exponent)
      | (_, _ :: left) =>
        let _ ← take (digits.length - left.length)
        if significand ≠ 0 ∧ !downward then fail .numberOutOfRange
        let _ ← takeWhile isDigit
        return signedDecimal isNegative 0) := by
  refine Settled.of_looked ?_ fun rest delimited =>
    reads_aheadWhile Digits.isDigit_of_mem delimited.stops
  split
  · apply Settled.after_last
    · exact settled_scaled ..
    · exact fun rest delimited => reads_digits digits delimited.stops
  · next left _ =>
    let bytes := digits.map digitByte
    let count := bytes.length - left.length
    have whole : bytes.take count ++ bytes.drop count = bytes := List.take_append_drop ..
    have width : (bytes.take count).length = count := by
      rw [List.length_take]
      omega
    have taken (rest : List UInt8) :
        Reads (· = bytes.take count ++ rest) (take count) (bytes.take count) (· = rest) := by
      have reads : Reads (· = bytes.take count ++ rest) (take (bytes.take count).length)
          (bytes.take count) (· = rest) := reads_take
      rwa [width] at reads
    change Settled Delimited bytes _
    rw [← whole]
    apply Settled.behind taken
    dsimp only
    split
    · exact ⟨_, .refuses fun _ _ => refuses_fail.bind⟩
    · apply Settled.after_last
      · exact settled_pure _
      · intro rest delimited
        refine reads_takeWhile (fun byte member => ?_) delimited.stops
        exact Digits.isDigit_of_mem byte (List.mem_of_mem_drop member)

theorem settled_exponentPart (exponent : Exponent) :
    Settled Delimited exponent.bytes (exponentPart isNegative significand shift) := by
  change Settled Delimited (exponent.mark :: (signBytes exponent.minus? ++
    ([digitByte exponent.digits.first] ++ exponent.digits.others.map digitByte))) _
  have signed (rest : List UInt8) (holds : Before exponent.digits.bytes Anything rest) :
      Reads (· = signBytes exponent.minus? ++ rest) exponentSign (exponent.minus?.getD false)
        (· = rest) := by
    obtain ⟨behind, _, rfl⟩ := holds
    exact reads_exponentSign exponent.minus? exponent.digits
  apply Settled.behind_skip
  refine Settled.after ?_ signed fun rest _ => ⟨_, trivial, List.append_assoc ..⟩
  apply Settled.behind fun rest => reads_digit _ _
  exact settled_exponentDigits ..

/-- Behind the last digit, an exponent is read or the number is complete. -/
theorem settled_afterDigits (exponent? : Option Exponent) :
    Settled Delimited (exponentBytes exponent?) (afterDigits isNegative significand shift) := by
  cases exponent? with
  | some exponent =>
    obtain ⟨_, _, marks⟩ := exponent.mark_ends
    refine Settled.of_looked ?_ fun rest _ => reads_look
    simp only [marks, if_true]
    exact settled_exponentPart _ _ _ exponent
  | none =>
    have becomes : Becomes Delimited [] (afterDigits isNegative significand shift)
        (scaled isNegative significand shift) := by
      refine becomes_peek fun rest delimited => ?_
      cases head : rest.head? with
      | none => rfl
      | some byte =>
        obtain ⟨_, _, notMark⟩ := delimited.ends byte head
        simp only [notMark, Bool.false_eq_true, if_false]
    exact (settled_scaled _ _ _).of_becomes becomes fun _ => id

theorem settled_fractionPart (digits : Digits) (exponent? : Option Exponent) :
    Settled Delimited ('.'.toUInt8 :: (digits.bytes ++ exponentBytes exponent?))
      (fractionPart isNegative significand shift) := by
  have stops (rest : List UInt8) (holds : Before (exponentBytes exponent?) Delimited rest) :
      ∀ byte ∈ rest.head?, isDigit byte = false := by
    obtain ⟨behind, delimited, rfl⟩ := holds
    exact fun byte here => (ends_exponent delimited byte here).1
  apply Settled.behind_skip
  refine Settled.after ?_ (fun rest holds =>
    reads_digits (digits.first :: digits.others) (stops rest holds)) fun rest delimited =>
      ⟨rest, delimited, rfl⟩
  exact settled_afterDigits ..

/-- Behind its whole part, a number is settled by the parts that it has. -/
theorem settled_behindWhole (first : UInt8) (digits : List UInt8) (fraction? : Option Digits)
    (exponent? : Option Exponent) :
    Settled Delimited (fractionBytes fraction? ++ exponentBytes exponent?) (do
      let after ← peek
      if first = '0'.toUInt8 ∧ after.any isDigit then failAhead .invalidNumber
      let (significand, left) := appendDigits significandLimit (digitValue first) digits
      if after == some '.'.toUInt8 then fractionPart isNegative significand left.length
      else if after.any isExponentMark then exponentPart isNegative significand left.length
      else if left.isEmpty then return whole isNegative significand
      else scaled isNegative significand left.length) := by
  cases fraction? with
  | some fraction =>
    refine Settled.of_looked ?_ fun rest _ => reads_look
    have digit : isDigit '.'.toUInt8 = false := by decide
    simp only [fractionBytes, Option.elim_some, List.cons_append, Option.any_some,
      digit, Bool.false_eq_true, and_false, if_false, beq_self_eq_true, if_true]
    exact settled_fractionPart _ _ _ fraction exponent?
  | none =>
    cases exponent? with
    | some exponent =>
      obtain ⟨digit, point, marks⟩ := exponent.mark_ends
      refine Settled.of_looked ?_ fun rest _ => reads_look
      simp only [digit, marks, Option.any_some, Bool.false_eq_true, and_false, if_false,
        Option.some_beq_some, beq_iff_eq, point, if_true]
      exact settled_exponentPart _ _ _ exponent
    | none =>
      let read := appendDigits significandLimit (digitValue first) digits
      have ends : Settled Delimited [] (if read.2.isEmpty then
          return whole isNegative read.1
        else scaled isNegative read.1 read.2.length : Reader Found) := by
        split
        · exact settled_pure _
        · exact settled_scaled _ _ _
      refine ends.of_becomes (becomes_peek fun rest delimited => ?_) fun _ => id
      have digit : rest.head?.any isDigit = false := any_head? delimited.stops
      have marks : rest.head?.any isExponentMark = false :=
        any_head? fun byte here => (delimited.ends byte here).2.2
      have point : (rest.head? == some '.'.toUInt8) = false :=
        head?_ne fun byte here => (delimited.ends byte here).2.1
      simp only [digit, marks, point, Bool.false_eq_true, and_false, if_false]
      rfl

/-- A number is settled behind its sign. -/
theorem settled_number (numeral : Numeral) :
    Settled Delimited numeral.magnitude (number isNegative) := by
  obtain ⟨_, ⟨first, others⟩, single, fraction?, exponent?⟩ := numeral
  change Settled Delimited ([digitByte first] ++ (others.map digitByte ++
    (fractionBytes fraction? ++ exponentBytes exponent?))) _
  apply Settled.behind fun rest => reads_digit _ _
  have stops (rest : List UInt8)
      (holds : Before (fractionBytes fraction? ++ exponentBytes exponent?) Delimited rest) :
      ∀ byte ∈ rest.head?, isDigit byte = false := by
    obtain ⟨behind, delimited, rfl⟩ := holds
    rw [List.append_assoc]
    exact ends_fraction delimited
  dsimp only
  split
  · next zero =>
    rw [digitByte_eq_zero_iff] at zero
    obtain rfl : others = [] := single zero
    apply Settled.behind fun rest => .pure _
    exact settled_behindWhole ..
  · refine Settled.after ?_ (fun rest holds => reads_digits others (stops rest holds))
      fun rest delimited => ⟨rest, delimited, rfl⟩
    exact settled_behindWhole ..

end Found

end Scl.Json

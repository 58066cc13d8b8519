import Scl.Json.Number
import Scl.Proofs.Json.Agreement
import Scl.Proofs.Json.Escape

/-! # Numbers and strings are read alike

Two inputs with the same bytes to come give the same number or the same fault, and the same string.
Only the text of a string is made in two ways. What is inside of its quotes is a text before the
escapes are resolved and stays one afterwards, which is all that a stream checks.
-/

namespace Scl.Json.Reader

open Text (IsText IsTextEnd isText_ascii isText_utf8EncodeChar)

variable {late : Prop}

section Number

theorem steady_scaled (isNegative : Bool) (significand : Nat) (exponent : Int) :
    Steady late (scaled isNegative significand exponent) := by
  unfold scaled
  dsimp only
  split
  · exact steady_pure _
  · split
    · exact steady_pure _
    · exact agrees_fail

theorem steady_exponentSign : Steady late exponentSign := by
  refine steady_peek.bind fun sign => ?_
  split
  · exact steady_skip.bind fun _ => steady_pure true
  · split
    · exact steady_skip.bind fun _ => steady_pure false
    · exact steady_pure false

theorem steady_digit (atEnd : Cause) : Steady late (digit atEnd) := by
  refine steady_next.bind fun head => ?_
  cases head with
  | none => exact agrees_fail
  | some byte =>
    dsimp only
    split
    · exact steady_pure byte
    · exact agrees_fail

theorem steady_exponentPart (isNegative : Bool) (significand : Nat) (shift : Int) :
    Steady late (exponentPart isNegative significand shift) := by
  refine steady_skip.bind fun _ => ?_
  refine steady_exponentSign.bind fun downward => ?_
  refine (steady_digit _).bind fun first => ?_
  refine (steady_aheadWhile isDigit).bind fun digits => ?_
  split
  · exact (steady_takeWhile isDigit).bind fun _ => steady_scaled _ _ _
  · refine (steady_take _).bind fun _ => ?_
    refine agrees_unless agrees_fail fun _ => ?_
    exact (steady_takeWhile isDigit).bind fun _ => steady_pure _

theorem steady_afterDigits (isNegative : Bool) (significand : Nat) (shift : Int) :
    Steady late (afterDigits isNegative significand shift) := by
  refine steady_peek.bind fun head => ?_
  cases head with
  | none =>
    dsimp only
    exact steady_scaled _ _ _
  | some byte =>
    dsimp only
    split
    · exact steady_exponentPart _ _ _
    · exact steady_scaled _ _ _

theorem steady_fractionPart (isNegative : Bool) (significand : Nat) (shift : Int) :
    Steady late (fractionPart isNegative significand shift) := by
  refine steady_skip.bind fun _ => ?_
  refine (steady_takeWhile isDigit).bind fun digits => ?_
  dsimp only
  split
  · refine steady_peek.bind fun head => ?_
    exact agrees_stop agrees_failAhead
  · exact steady_afterDigits _ _ _

theorem steady_number (isNegative : Bool) : Steady late (number isNegative) := by
  refine (steady_digit _).bind fun first => ?_
  refine agrees_either (steady_pure []) (steady_takeWhile isDigit) fun digits => ?_
  refine steady_peek.bind fun after => ?_
  refine agrees_unless agrees_failAhead fun _ => ?_
  dsimp only
  split
  · exact steady_fractionPart _ _ _
  split
  · exact steady_exponentPart _ _ _
  split
  · exact steady_pure _
  · exact steady_scaled _ _ _

end Number

section Escape

theorem ascii_of_hexValue? {byte : UInt8} {value : Nat} (digit : hexValue? byte = some value) :
    byte.toNat < 128 := by
  simp only [hexValue?] at digit
  split at digit
  · omega
  · split at digit
    · omega
    · split at digit
      · omega
      · cases digit

theorem ascii_of_hexNumber? {digits : List UInt8} {value : Nat}
    (number : hexNumber? digits = some value) : ∀ byte ∈ digits, byte.toNat < 128 := by
  unfold hexNumber? at number
  generalize 0 = start at number
  induction digits generalizing start with
  | nil => simp
  | cons digit digits ih =>
    rw [List.foldlM_cons, Option.bind_eq_bind, Option.bind_eq_some_iff] at number
    obtain ⟨longer, first, number⟩ := number
    obtain ⟨_, isDigit, _⟩ := Option.map_eq_some_iff.mp first
    rw [List.forall_mem_cons]
    exact ⟨ascii_of_hexValue? isDigit, ih _ number⟩

/-- An escape of one letter is a letter of ASCII, and it stands for a byte of ASCII. -/
theorem ascii_of_shortEscape? {letter byte : UInt8} (stands : shortEscape? letter = some byte) :
    letter.toNat < 128 ∧ byte.toNat < 128 := by
  obtain ⟨⟨written, meant⟩, member, found⟩ := List.exists_of_findSome?_eq_some stands
  have small : written.toUInt8.toNat < 128 ∧ meant.toUInt8.toNat < 128 := by
    simp only [List.mem_cons, Prod.mk.injEq, List.not_mem_nil, or_false] at member
    rcases member with
      ⟨rfl, rfl⟩ | ⟨rfl, rfl⟩ | ⟨rfl, rfl⟩ | ⟨rfl, rfl⟩ | ⟨rfl, rfl⟩ | ⟨rfl, rfl⟩ | ⟨rfl, rfl⟩ |
        ⟨rfl, rfl⟩ <;> decide
  dsimp only at found
  split at found
  · next same => exact Option.some.inj found ▸ same ▸ small
  · cases found

/-- What holds of bytes still holds behind the digits of an escape, if it does behind ASCII. -/
theorem agrees_fourDigits {before : List UInt8 → Prop}
    (behind : ∀ front rest, before (front ++ rest) → (∀ byte ∈ front, byte.toNat < 128) →
      before rest) :
    Agrees late before fourDigits fun _ => before := by
  refine (agrees_take 4).bind fun digits => ?_
  refine agrees_unless agrees_fail fun _ => ?_
  dsimp only
  cases value : hexNumber? digits with
  | none => exact agrees_fail
  | some unit => exact agrees_pure fun rest holds => behind _ _ holds (ascii_of_hexNumber? value)

theorem agrees_fourDigits_text : Agrees late IsText fourDigits fun _ => IsText :=
  agrees_fourDigits fun _ _ => IsText.of_ascii_append

theorem agrees_pairByte {wanted : UInt8} (ascii : wanted.toNat < 128) :
    Agrees late IsText (pairByte wanted) fun _ => IsText := by
  refine agrees_next.bind fun head => ?_
  cases head with
  | none => exact agrees_fail
  | some byte =>
    dsimp only
    split
    · exact agrees_fail
    · next same =>
      obtain rfl := Decidable.not_not.mp same
      exact agrees_pure fun rest holds => holds.isTextEnd.isText_tail ascii

theorem agrees_numberedEscape : Agrees late IsText numberedEscape fun _ => IsText := by
  refine agrees_fourDigits_text.bind fun unit => ?_
  split
  · exact agrees_fail
  split
  · refine (agrees_pairByte (by decide)).bind fun _ => ?_
    refine (agrees_pairByte (by decide)).bind fun _ => ?_
    refine agrees_fourDigits_text.bind fun second => ?_
    split
    · exact agrees_pure fun _ => id
    · exact agrees_fail
  · exact agrees_pure fun _ => id

/-- What an escape stands for is a text, and so is what comes behind it. -/
theorem agrees_escape : Agrees late IsText escape fun meant rest => IsText meant ∧ IsText rest := by
  refine agrees_next.bind fun head => ?_
  cases head with
  | none => exact agrees_fail
  | some letter =>
    dsimp only
    cases stands : shortEscape? letter with
    | some byte =>
      obtain ⟨small, meantSmall⟩ := ascii_of_shortEscape? stands
      exact agrees_pure fun rest holds =>
        ⟨isText_ascii meantSmall, holds.isTextEnd.isText_tail small⟩
    | none =>
      dsimp only
      split
      · next same =>
        subst same
        refine (agrees_numberedEscape.weaken fun rest holds => ?_).bind fun c => ?_
        · exact holds.isTextEnd.isText_tail (by decide)
        · exact agrees_pure fun rest holds => ⟨isText_utf8EncodeChar c, holds⟩
      · exact agrees_fail

theorem steady_skipEscape : Steady late skipEscape := by
  refine steady_next.bind fun head => ?_
  cases head with
  | none => exact agrees_fail
  | some letter =>
    dsimp only
    split
    · exact steady_pure ()
    split
    · exact (agrees_fourDigits fun _ _ holds _ => holds.of_append).bind fun _ => steady_pure ()
    · exact agrees_fail

end Escape

section String

/-- The bytes of a string and all that is to come stay a text. -/
theorem agrees_stringByte (reversed : List UInt8) (byte : UInt8) :
    Agrees late (fun rest => IsText (reversed.reverse ++ byte :: rest)) (stringByte reversed byte)
      fun state rest => IsText (state.reverse ++ rest) := by
  rw [stringByte]
  split
  · next isBackslash =>
    subst isBackslash
    have cut (rest : List UInt8) (holds : IsText (reversed.reverse ++ backslash :: rest)) :
        IsText reversed.reverse ∧ IsText rest :=
      holds.of_append_cons (by decide)
    refine Agrees.weaken (agrees_of_fact fun isText => ?_) cut
    refine agrees_escape.bind fun meant => agrees_pure fun rest holds => ?_
    rw [List.reverse_append, List.reverse_reverse, List.append_assoc]
    exact isText.append (holds.1.append holds.2)
  split
  · exact agrees_fail
  · refine agrees_pure fun rest holds => ?_
    rwa [List.reverse_cons, List.append_assoc]

/-- The bytes of a text pass the check, so it does not matter whether it is made. -/
theorem agrees_textOf {before : List UInt8 → Prop} {bytes : List UInt8} (isText : IsText bytes) :
    Agrees late before (textOf bytes) fun _ => before := by
  obtain ⟨text, rfl⟩ := isText.exists_text
  exact agrees_of_reads fun rest holds => ⟨text, rest, reads_textOf text, holds⟩

theorem agrees_string : Agrees late IsText string fun _ => IsText := by
  have bytes : Agrees late IsText (untilQuote stringByte [])
      fun state rest => IsText state.reverse ∧ IsText rest := by
    let inside (reversed rest : List UInt8) := IsText (reversed.reverse ++ rest)
    refine agrees_untilQuote inside (fun state rest holds => ?_) (fun state byte _ => ?_) []
    · exact holds.of_append_cons (by decide)
    · exact agrees_stringByte state byte
  exact bytes.bind fun state => agrees_of_fact agrees_textOf

theorem steady_skippedByte (byte : UInt8) : Steady late (skippedByte () byte) := by
  rw [skippedByte]
  split
  · exact steady_skipEscape
  split
  · refine agrees_failAt fun input => ?_
    cases input.source with
    | text => rfl
    | stream => rfl
  · exact steady_pure ()

theorem steady_skipString : Steady late skipString := by
  refine agrees_untilQuote (fun _ => IsTextEnd) (fun _ rest => IsTextEnd.tail)
    (fun _ byte _ => ?_) ()
  exact (steady_skippedByte byte).weaken fun rest => IsTextEnd.tail

end String

end Scl.Json.Reader

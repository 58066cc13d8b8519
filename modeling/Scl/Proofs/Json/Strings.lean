import Scl.Proofs.Json.Settled
import Scl.Proofs.Json.Syntax

/-! # Strings in front of anything

A well-formed string is skipped whatever its pieces mean. Where its text is wanted, the pieces
decide whether there is one: the bytes up to the closing quote are read as the text, or they are
refused, and what stands behind the quote makes no difference.
-/

namespace Scl.Json

open Reader

namespace HexDigit

def byte (digit : HexDigit) : UInt8 :=
  digit.char.toUInt8

theorem utf8EncodeChar_char (digit : HexDigit) :
    String.utf8EncodeChar digit.char = [digit.byte] := by
  have every : ∀ (value : Fin 16) (capital : Bool),
      String.utf8EncodeChar (HexDigit.mk value capital).char =
        [(HexDigit.mk value capital).byte] := by
    decide
  exact every digit.value digit.capital

theorem hexValue?_byte (digit : HexDigit) : hexValue? digit.byte = some digit.value.val := by
  have every : ∀ (value : Fin 16) (capital : Bool),
      hexValue? (HexDigit.mk value capital).byte = some value.val := by
    decide
  exact every digit.value digit.capital

end HexDigit

namespace CodeUnit

variable {rest : List UInt8}

def bytes (code : CodeUnit) : List UInt8 :=
  code.digits.map HexDigit.byte

theorem encodeUtf8_write (code : CodeUnit) : Text.encodeUtf8 code.write = code.bytes :=
  Text.encodeUtf8_ofList_map HexDigit.utf8EncodeChar_char code.digits

theorem reads_fourDigits (code : CodeUnit) :
    Reads (· = code.bytes ++ rest) fourDigits code.number (· = rest) := by
  have four : code.bytes.length = 4 := rfl
  have value : hexNumber? code.bytes = some code.number := by
    simp [hexNumber?, bytes, number, digits, HexDigit.hexValue?_byte]
  rw [fourDigits, ← four]
  refine reads_take.bind ?_
  simp only [Nat.lt_irrefl, if_false, value]
  exact .pure _

end CodeUnit

namespace Piece

def bytes (pieces : List Piece) : List UInt8 :=
  pieces.flatMap fun piece => Text.encodeUtf8 piece.write

theorem bytes_cons (piece : Piece) (pieces : List Piece) :
    bytes (piece :: pieces) = Text.encodeUtf8 piece.write ++ bytes pieces :=
  List.flatMap_cons

/-- A letter that may stand behind a backslash is one byte, and so is what it stands for. -/
theorem letter_bytes {written meant : Char} (known : (written, meant) ∈ letterEscapes) :
    Text.encodeUtf8 ("\\" ++ written.toString) = [backslash, written.toUInt8] ∧
      shortEscape? written.toUInt8 = some meant.toUInt8 ∧
      String.utf8EncodeChar meant = [meant.toUInt8] := by
  have every : ∀ escape ∈ letterEscapes,
      Text.encodeUtf8 ("\\" ++ escape.1.toString) = [backslash, escape.1.toUInt8] ∧
        shortEscape? escape.1.toUInt8 = some escape.2.toUInt8 ∧
        String.utf8EncodeChar escape.2 = [escape.2.toUInt8] := by
    decide
  exact every (written, meant) known

theorem unit_bytes (code : CodeUnit) :
    Text.encodeUtf8 (Piece.unit code).write = backslash :: 'u'.toUInt8 :: code.bytes := by
  have start : Text.encodeUtf8 "\\u" = [backslash, 'u'.toUInt8] := by decide
  rw [write, Text.encodeUtf8_append, start, code.encodeUtf8_write]
  rfl

/-! ## Skipping -/

/-- A piece is skipped, and then the rest of the string. -/
theorem becomes_skipString (piece : Piece) :
    Becomes Anything (Text.encodeUtf8 piece.write) skipString skipString := by
  have escaped {letters : List UInt8}
      (skips : ∀ rest, Reads (· = letters ++ rest) skipEscape () (· = rest)) :
      Becomes Anything (backslash :: letters) skipString skipString := by
    have inside : backslash ≠ quote := by decide
    have first := becomes_untilQuote_cons skippedByte () inside
    rw [skippedByte, if_pos rfl] at first
    exact first.trans (.of_reads fun rest _ => skips rest) fun _ _ => trivial
  cases piece with
  | plain c notQuote notBackslash shown =>
    rw [write, Text.encodeUtf8_toString]
    refine becomes_untilQuote_kept (fun _ _ => ()) fun _ byte member => ?_
    obtain ⟨notQuote, notBackslash, shown⟩ := plain_of_mem notQuote notBackslash shown member
    refine ⟨notQuote, ?_⟩
    rw [skippedByte, if_neg notBackslash, if_neg shown]
  | letter written meant known =>
    obtain ⟨bytes, stands, _⟩ := letter_bytes known
    rw [write, bytes]
    refine escaped fun rest => ?_
    refine reads_next.bind ?_
    simp only [stands, Option.isSome_some, if_true]
    exact .pure ()
  | unit code =>
    rw [unit_bytes]
    refine escaped fun rest => ?_
    have noLetter : shortEscape? 'u'.toUInt8 = none := by decide
    refine reads_next.bind ?_
    simp only [noLetter, Option.isSome_none, Bool.false_eq_true, if_false, if_true]
    exact code.reads_fourDigits.bind (.pure ())

/-! ## Reading -/

/-- What is read behind the digits of a code unit: nothing, or the other half of a pair. -/
def behindUnit (unit : Nat) : Reader Char :=
  if isLowSurrogate unit then fail .loneSurrogate
  else if isHighSurrogate unit then do
    pairByte backslash
    pairByte 'u'.toUInt8
    let second ← fourDigits
    if isLowSurrogate second then
      return Char.ofNat (0x10000 + (unit - 0xD800) * 0x400 + (second - 0xDC00))
    else fail .loneSurrogate
  else return Char.ofNat unit

theorem numberedEscape_eq : numberedEscape = fourDigits >>= behindUnit := rfl

/-- Behind the digits of a code unit, the rest of its character is read and then the rest of the
string. -/
theorem becomes_unit (code : CodeUnit) (state : List UInt8) :
    Becomes Anything (backslash :: 'u'.toUInt8 :: code.bytes) (untilQuote stringByte state)
      (behindUnit code.number >>= fun c =>
        untilQuote stringByte ((String.utf8EncodeChar c).reverse ++ state)) := by
  have inside : backslash ≠ quote := by decide
  have first := becomes_untilQuote_cons stringByte state inside
  rw [stringByte, if_pos rfl] at first
  have letter : Becomes Anything ['u'.toUInt8] escape
      (numberedEscape >>= fun c => pure (String.utf8EncodeChar c)) := by
    have noLetter : shortEscape? 'u'.toUInt8 = none := by decide
    have taken : Becomes Anything ['u'.toUInt8] escape _ := .of_reads fun rest _ => reads_next
    simpa only [noLetter, if_true] using taken
  have digits : Becomes Anything code.bytes
      (numberedEscape >>= fun c => pure (String.utf8EncodeChar c))
      (behindUnit code.number >>= fun c => pure (String.utf8EncodeChar c)) := by
    rw [numberedEscape_eq]
    exact (Becomes.of_reads fun rest _ => code.reads_fourDigits).bind
  have whole := first.trans (letter.trans digits fun _ _ => trivial).bind.bind fun _ _ => trivial
  simpa only [bind_assoc, pure_bind, List.singleton_append] using whole

section Pair

variable {rest : List UInt8} {unit : Nat}

theorem reads_pairByte {wanted : UInt8} :
    Reads (· = wanted :: rest) (pairByte wanted) () (· = rest) := by
  refine reads_next.bind ?_
  simp only [ne_eq, not_true_eq_false, if_false]
  exact .pure ()

theorem refuses_pairByte {byte wanted : UInt8} (other : byte ≠ wanted) :
    Refuses (· = byte :: rest) (pairByte wanted) .unfinishedSurrogatePair := by
  refine reads_next.bind_refuses ?_
  simp only [other, ne_eq, not_false_eq_true, if_true]
  exact refuses_fail

/-- The digits of the other half are read behind a backslash and its letter. -/
theorem becomes_second (high : isHighSurrogate unit = true) (low : CodeUnit) :
    Becomes Anything (backslash :: 'u'.toUInt8 :: low.bytes) (behindUnit unit)
      (if isLowSurrogate low.number then
        return Char.ofNat (0x10000 + (unit - 0xD800) * 0x400 + (low.number - 0xDC00))
      else fail .loneSurrogate) := by
  have first : isLowSurrogate unit = false := by
    simp only [isHighSurrogate, isLowSurrogate, Bool.and_eq_true, Bool.and_eq_false_iff,
      decide_eq_true_eq, decide_eq_false_iff_not] at high ⊢
    omega
  have marked {β : Type} {next : Unit → Reader β} (wanted : UInt8) :
      Becomes Anything [wanted] (pairByte wanted >>= next) (next ()) :=
    .of_reads fun rest _ => reads_pairByte
  have digits {β : Type} {next : Nat → Reader β} :
      Becomes Anything low.bytes (fourDigits >>= next) (next low.number) :=
    .of_reads fun rest _ => low.reads_fourDigits
  simp only [behindUnit, first, high, Bool.false_eq_true, if_false, if_true]
  refine (marked backslash).trans ?_ fun _ _ => trivial
  exact (marked 'u'.toUInt8).trans digits fun _ _ => trivial

end Pair

/-- Up to the closing quote, these bytes are read as the characters, or refused if there are
none. -/
def Resolves (bytes state : List UInt8) : Option (List Char) → Prop
  | some chars =>
    Decides Anything bytes (untilQuote stringByte state)
      (.ok ((chars.flatMap String.utf8EncodeChar).reverse ++ state))
  | none => ∃ cause, Decides Anything bytes (untilQuote stringByte state) (.error cause)

/-- A character in front of what resolves. -/
theorem Resolves.cons {c : Char} {front bytes state : List UInt8} {chars? : Option (List Char)}
    (becomes : Becomes Anything front (untilQuote stringByte state)
      (untilQuote stringByte ((String.utf8EncodeChar c).reverse ++ state)))
    (resolves : Resolves bytes ((String.utf8EncodeChar c).reverse ++ state) chars?) :
    Resolves (front ++ bytes) state (chars?.map (c :: ·)) := by
  cases chars? with
  | none =>
    obtain ⟨cause, decides⟩ := resolves
    exact ⟨cause, decides.of_becomes becomes fun _ _ => trivial⟩
  | some chars =>
    have decides := Decides.of_becomes resolves becomes fun _ _ => trivial
    rw [← List.append_assoc, ← List.reverse_append] at decides
    exact decides

/-- Behind half of a pair, nothing but another code unit is read. -/
theorem refuses_half {code : CodeUnit} {pieces : List Piece}
    (first : isLowSurrogate code.number = false) (half : isHighSurrogate code.number = true)
    (alone : ∀ low later, pieces ≠ .unit low :: later) (rest : List UInt8) :
    Refuses (· = bytes pieces ++ quote :: rest) (behindUnit code.number)
      .unfinishedSurrogatePair := by
  simp only [behindUnit, first, half, Bool.false_eq_true, if_false, if_true]
  match pieces, alone with
  | [], _ =>
    have other : quote ≠ backslash := by decide
    exact (refuses_pairByte other).bind
  | .plain c notQuote notBackslash shown :: pieces, _ =>
    rw [bytes_cons, write, Text.encodeUtf8_toString, List.append_assoc]
    cases encoded : String.utf8EncodeChar c with
    | nil => exact (String.utf8EncodeChar_ne_nil encoded).elim
    | cons byte tail =>
      have member : byte ∈ String.utf8EncodeChar c := by
        rw [encoded]
        exact List.mem_cons_self ..
      obtain ⟨_, other, _⟩ := plain_of_mem notQuote notBackslash shown member
      exact (refuses_pairByte other).bind
  | .letter written meant known :: pieces, _ =>
    obtain ⟨both, _, _⟩ := letter_bytes known
    have other : written.toUInt8 ≠ 'u'.toUInt8 := by
      have every : ∀ escape ∈ letterEscapes, escape.1.toUInt8 ≠ 'u'.toUInt8 := by decide
      exact every (written, meant) known
    rw [bytes_cons, write, both, List.append_assoc]
    exact reads_pairByte.bind_refuses (refuses_pairByte other).bind
  | .unit low :: later, alone => exact (alone low later rfl).elim

theorem resolves (pieces : List Piece) (state : List UInt8) :
    Resolves (bytes pieces ++ [quote]) state (meaning pieces) := by
  fun_induction meaning pieces generalizing state with
  | case1 => exact .reads fun rest _ => reads_untilQuote_quote
  | case2 c notQuote notBackslash shown pieces ih =>
    rw [bytes_cons, write, Text.encodeUtf8_toString, List.append_assoc]
    refine (ih _).cons (becomes_untilQuote_plain fun byte member => ?_)
    exact plain_of_mem notQuote notBackslash shown member
  | case3 written meant known pieces ih =>
    obtain ⟨both, stands, single⟩ := letter_bytes known
    rw [bytes_cons, write, both, List.append_assoc]
    refine (ih _).cons ?_
    rw [single]
    exact becomes_untilQuote_escape fun rest => reads_escape_letter stands
  | case4 code pieces lone =>
    rw [bytes_cons, unit_bytes, List.append_assoc]
    refine ⟨.loneSurrogate, Decides.of_becomes (.refuses fun rest _ => ?_)
      (becomes_unit code state) fun _ _ => trivial⟩
    simp only [behindUnit, lone, if_true]
    exact refuses_fail.bind
  | case5 code notLow high low pieces paired number ih =>
    rw [bytes_cons, bytes_cons, unit_bytes, unit_bytes, List.append_assoc, List.append_assoc,
      ← List.append_assoc]
    refine (ih _).cons ?_
    refine (becomes_unit code state).trans ?_ fun _ _ => trivial
    have second := becomes_second high low
    rw [if_pos paired] at second
    exact second.bind
  | case6 code notLow high low pieces single =>
    rw [bytes_cons, unit_bytes, List.append_assoc]
    have second := becomes_second high low
    rw [if_neg single] at second
    rw [bytes_cons, unit_bytes, List.append_assoc]
    refine ⟨.loneSurrogate, Decides.of_becomes (.of_becomes (.refuses fun rest _ => ?_)
      second.bind fun _ _ => trivial) (becomes_unit code state) fun _ _ => trivial⟩
    exact refuses_fail.bind
  | case7 code pieces notLow high alone =>
    rw [bytes_cons, unit_bytes, List.append_assoc]
    refine ⟨.unfinishedSurrogatePair, Decides.of_becomes (.refuses fun rest _ => ?_)
      (becomes_unit code state) fun _ _ => trivial⟩
    rw [List.append_assoc]
    exact (refuses_half (Bool.eq_false_iff.mpr notLow) high alone rest).bind
  | case8 code pieces notLow notHigh ih =>
    rw [bytes_cons, unit_bytes, List.append_assoc]
    refine (ih _).cons ?_
    have whole := becomes_unit code state
    simp only [behindUnit, notLow, notHigh, Bool.false_eq_true, if_false] at whole
    exact whole

end Piece

namespace Quoted

def inside (quoted : Quoted) : List UInt8 :=
  Piece.bytes quoted.pieces ++ [quote]

theorem encodeUtf8_write (quoted : Quoted) :
    Text.encodeUtf8 quoted.write = quote :: quoted.inside := by
  have mark : Text.encodeUtf8 "\"" = [quote] := by decide
  rw [write, Text.encodeUtf8_append, Text.encodeUtf8_append, Text.encodeUtf8_join, mark,
    List.flatMap_map]
  rfl

/-- A string is skipped up to its closing quote, by induction on its pieces. -/
theorem reads_skipString (quoted : Quoted) (rest : List UInt8) :
    Reads (· = quoted.inside ++ rest) skipString () (· = rest) := by
  obtain ⟨pieces⟩ := quoted
  rw [inside, List.append_assoc]
  induction pieces with
  | nil => exact reads_untilQuote_quote
  | cons piece pieces ih =>
    rw [Piece.bytes_cons, List.append_assoc]
    exact piece.becomes_skipString.reads trivial ih

/-- A string with a meaning is read as this text. -/
theorem decides_string {quoted : Quoted} {text : String} (means : quoted.meaning = some text) :
    Decides Anything quoted.inside string (.ok text) := by
  have resolves := Piece.resolves quoted.pieces []
  obtain ⟨chars, same, rfl⟩ := Option.map_eq_some_iff.mp means
  rw [same] at resolves
  cases resolves with
  | reads reads =>
    refine .reads fun rest follows => (reads rest follows).bind ?_
    rw [List.append_nil, List.reverse_reverse]
    have bytes : Text.encodeUtf8 (String.ofList chars) = chars.flatMap String.utf8EncodeChar := by
      rw [Text.encodeUtf8, String.toList_ofList]
    rw [← bytes]
    exact reads_textOf _

theorem settled_string (quoted : Quoted) : Settled Anything quoted.inside string := by
  cases means : quoted.meaning with
  | some text => exact ⟨_, decides_string means⟩
  | none =>
    have resolves := Piece.resolves quoted.pieces []
    rw [Option.map_eq_none_iff.mp means] at resolves
    obtain ⟨cause, decides⟩ := resolves
    cases decides with
    | refuses refuses =>
      exact ⟨_, .refuses fun rest follows => (refuses rest follows).bind⟩

end Quoted

end Scl.Json

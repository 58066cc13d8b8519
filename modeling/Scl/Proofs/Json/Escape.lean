import Scl.Json.Token
import Scl.Proofs.Json.Reading
import Scl.Proofs.Text.Utf8

/-! # Reading written strings

Every character of a written string is written in one of three ways: by a letter behind a
backslash, by its number behind a backslash, or as it is. Each of them is read back as the bytes of
the character, so a string is read back as its text.
-/

namespace Scl.Json

open Reader

/-- The ways to write a character in a string, with the bytes that they take. -/
inductive Escaped (c : Char) : List UInt8 → Prop where
  /-- By a letter that stands for its byte. -/
  | letter {letter byte : UInt8} (stands : shortEscape? letter = some byte)
    (single : String.utf8EncodeChar c = [byte]) : Escaped c [backslash, letter]
  /-- By four digits of its number, which is too small for a surrogate. -/
  | number {digits : List UInt8} (four : digits.length = 4)
    (value : hexNumber? digits = some c.toNat) (small : c.toNat < 0x20) :
    Escaped c (backslash :: 'u'.toUInt8 :: digits)
  /-- As it is. -/
  | plain (notQuote : c ≠ '"') (notBackslash : c ≠ '\\') (shown : 0x20 ≤ c.toNat) :
    Escaped c (String.utf8EncodeChar c)

private theorem escaped_by_letter {text : String} (c letter : Char)
    (written : Text.encodeUtf8 text = [backslash, letter.toUInt8])
    (stands : shortEscape? letter.toUInt8 = some c.toUInt8)
    (single : String.utf8EncodeChar c = [c.toUInt8]) : Escaped c (Text.encodeUtf8 text) := by
  rw [written]
  exact .letter stands single

/-- A number below 32 has one or two hexadecimal digits, which zeros make four. -/
private theorem hexNumber_padded : ∀ n : Fin 32,
    let digits := Text.encodeUtf8 ((if n.val < 0x10 then "000" else "00") ++ Text.hex n)
    digits.length = 4 ∧ hexNumber? digits = some n.val := by
  decide

private theorem escaped_by_number {start zeros : String} (c : Char)
    (starts : Text.encodeUtf8 start = backslash :: 'u'.toUInt8 :: Text.encodeUtf8 zeros)
    (padded : (if c.toNat < 0x10 then "000" else "00") = zeros) (small : c.toNat < 0x20) :
    Escaped c (Text.encodeUtf8 (start ++ Text.hex c.toNat)) := by
  obtain ⟨four, value⟩ := hexNumber_padded ⟨c.toNat, small⟩
  simp only [padded] at four value
  rw [Text.encodeUtf8_append, starts, List.cons_append, List.cons_append,
    ← Text.encodeUtf8_append]
  exact .number four value small

theorem escaped_escapeChar (c : Char) : Escaped c (Text.encodeUtf8 (escapeChar c)) := by
  unfold escapeChar
  split
  · next same => exact same ▸ escaped_by_letter '"' '"' (by decide) (by decide) (by decide)
  next notQuote =>
  split
  · next same => exact same ▸ escaped_by_letter '\\' '\\' (by decide) (by decide) (by decide)
  next notBackslash =>
  split
  · next same => exact same ▸ escaped_by_letter '\x08' 'b' (by decide) (by decide) (by decide)
  split
  · next same => exact same ▸ escaped_by_letter '\x0c' 'f' (by decide) (by decide) (by decide)
  split
  · next same => exact same ▸ escaped_by_letter '\n' 'n' (by decide) (by decide) (by decide)
  split
  · next same => exact same ▸ escaped_by_letter '\r' 'r' (by decide) (by decide) (by decide)
  split
  · next same => exact same ▸ escaped_by_letter '\t' 't' (by decide) (by decide) (by decide)
  split
  · next one => exact escaped_by_number c (by decide) (if_pos one) (by omega)
  next notOne =>
  split
  · next small => exact escaped_by_number c (by decide) (if_neg notOne) small
  · next shown =>
    rw [Text.encodeUtf8_toString]
    exact .plain notQuote notBackslash (by omega)

section String

variable {byte : UInt8} {bytes rest state answer : List UInt8} {after : List UInt8 → Prop}

section Loop

variable {σ : Type} {step : σ → UInt8 → Reader σ} {current : σ}

/-- A byte inside a string is given to the step, and reading goes on behind it. -/
theorem becomes_untilQuote_cons (step : σ → UInt8 → Reader σ) (current : σ)
    (inside : byte ≠ quote) :
    Becomes Anything [byte] (untilQuote step current) (step current byte >>= untilQuote step) := by
  rintro ⟨_, taken, peeked, source⟩ rest _ rfl
  exact ⟨_, rfl, run_untilQuote_cons step current rest taken peeked source inside⟩

theorem reads_untilQuote_quote :
    Reads (· = quote :: rest) (untilQuote step current) current (· = rest) := by
  rintro ⟨_, taken, peeked, source⟩ rfl
  exact ⟨_, run_untilQuote_quote step current rest taken peeked source, rfl⟩

/-- Bytes that only change the state are taken in turn. -/
theorem becomes_untilQuote_kept (keep : σ → UInt8 → σ)
    (kept : ∀ current, ∀ byte ∈ bytes,
      byte ≠ quote ∧ step current byte = pure (keep current byte)) :
    Becomes Anything bytes (untilQuote step current)
      (untilQuote step (bytes.foldl keep current)) := by
  induction bytes generalizing current with
  | nil => exact fun input rest _ here => ⟨input, here, rfl⟩
  | cons byte bytes ih =>
    obtain ⟨inside, same⟩ := kept current byte (List.mem_cons_self ..)
    have first := becomes_untilQuote_cons step current inside
    rw [same] at first
    refine first.trans (ih fun current other member => ?_) fun _ _ => trivial
    exact kept current other (List.mem_cons_of_mem _ member)

end Loop

/-- Bytes without a meaning of their own are kept. -/
theorem becomes_untilQuote_plain
    (plain : ∀ byte ∈ bytes, byte ≠ quote ∧ byte ≠ backslash ∧ ¬ byte < 0x20) :
    Becomes Anything bytes (untilQuote stringByte state)
      (untilQuote stringByte (bytes.reverse ++ state)) := by
  have reversed : bytes.foldl (fun state byte => byte :: state) state = bytes.reverse ++ state :=
    List.foldl_flip_cons_eq_append' ..
  rw [← reversed]
  refine becomes_untilQuote_kept _ fun state byte member => ?_
  obtain ⟨notQuote, notBackslash, shown⟩ := plain byte member
  refine ⟨notQuote, ?_⟩
  rw [stringByte, if_neg notBackslash, if_neg shown]

/-- What is behind a backslash is read as the bytes that it stands for. -/
theorem becomes_untilQuote_escape {letters meant : List UInt8}
    (escaped : ∀ rest, Reads (· = letters ++ rest) escape meant (· = rest)) :
    Becomes Anything (backslash :: letters) (untilQuote stringByte state)
      (untilQuote stringByte (meant.reverse ++ state)) := by
  have inside : backslash ≠ quote := by decide
  have first := becomes_untilQuote_cons stringByte state inside
  rw [stringByte, if_pos rfl] at first
  refine first.trans (.of_reads fun rest _ => ?_) fun _ _ => trivial
  exact (escaped rest).bind (.pure _)

theorem reads_escape_letter {letter : UInt8} (stands : shortEscape? letter = some byte) :
    Reads (· = [letter] ++ rest) escape [byte] (· = rest) := by
  refine reads_next.bind ?_
  simp only [stands]
  exact .pure _

theorem reads_escape_number {c : Char} {digits : List UInt8} (four : digits.length = 4)
    (value : hexNumber? digits = some c.toNat) (small : c.toNat < 0x20) :
    Reads (· = 'u'.toUInt8 :: digits ++ rest) escape (String.utf8EncodeChar c) (· = rest) := by
  have read : Reads (· = digits ++ rest) fourDigits c.toNat (· = rest) := by
    rw [fourDigits, ← four]
    refine reads_take.bind ?_
    simp only [Nat.lt_irrefl, if_false, value]
    exact .pure _
  have notLow : isLowSurrogate c.toNat = false := by
    simp only [isLowSurrogate, Bool.and_eq_false_iff, decide_eq_false_iff_not]
    omega
  have notHigh : isHighSurrogate c.toNat = false := by
    simp only [isHighSurrogate, Bool.and_eq_false_iff, decide_eq_false_iff_not]
    omega
  have numbered : Reads (· = digits ++ rest) numberedEscape c (· = rest) := by
    refine read.bind ?_
    simp only [notLow, notHigh, Bool.false_eq_true, if_false, Char.ofNat_toNat]
    exact .pure _
  refine reads_next.bind ?_
  have noLetter : shortEscape? 'u'.toUInt8 = none := by decide
  simp only [noLetter, if_true]
  exact numbered.bind (.pure _)

/-- A character that is written as it is has no byte with a meaning of its own. -/
theorem plain_of_mem {c : Char} (notQuote : c ≠ '"') (notBackslash : c ≠ '\\')
    (shown : 0x20 ≤ c.toNat) (member : byte ∈ String.utf8EncodeChar c) :
    byte ≠ quote ∧ byte ≠ backslash ∧ ¬ byte < 0x20 := by
  have number := Text.mem_utf8EncodeChar member
  have notQuoteNumber : c.toNat ≠ 34 := fun same => notQuote (Char.toNat_inj.mp same)
  have notBackslashNumber : c.toNat ≠ 92 := fun same => notBackslash (Char.toNat_inj.mp same)
  refine ⟨?_, ?_, ?_⟩
  · rintro rfl
    have value : quote.toNat = 34 := rfl
    omega
  · rintro rfl
    have value : backslash.toNat = 92 := rfl
    omega
  · intro below
    have value : byte.toNat < 32 := below
    omega

/-- A character is read as its bytes, however it is written. -/
theorem becomes_untilQuote_escaped {c : Char} (escaped : Escaped c bytes) :
    Becomes Anything bytes (untilQuote stringByte state)
      (untilQuote stringByte ((String.utf8EncodeChar c).reverse ++ state)) := by
  cases escaped with
  | letter stands single =>
    rw [single]
    exact becomes_untilQuote_escape fun _ => reads_escape_letter stands
  | number four value small =>
    exact becomes_untilQuote_escape fun _ => reads_escape_number four value small
  | plain notQuote notBackslash shown =>
    exact becomes_untilQuote_plain fun byte => plain_of_mem notQuote notBackslash shown

/-- The bytes of a text inside a written string. -/
def escapedBytes (text : String) : List UInt8 :=
  text.toList.flatMap fun c => Text.encodeUtf8 (escapeChar c)

theorem encodeUtf8_writeString (text : String) :
    Text.encodeUtf8 (writeString text) = quote :: (escapedBytes text ++ [quote]) := by
  have mark : Text.encodeUtf8 "\"" = [quote] := by decide
  rw [writeString, Text.encodeUtf8_append, Text.encodeUtf8_append, Text.encodeUtf8_join, mark,
    List.flatMap_map]
  rfl

theorem reads_escapedBytes (chars : List Char) :
    Reads (· = chars.flatMap (fun c => Text.encodeUtf8 (escapeChar c)) ++ quote :: rest)
      (untilQuote stringByte state)
      ((chars.flatMap String.utf8EncodeChar).reverse ++ state) (· = rest) := by
  induction chars generalizing state with
  | nil => exact reads_untilQuote_quote
  | cons c chars ih =>
    rw [List.flatMap_cons, List.flatMap_cons, List.append_assoc, List.reverse_append,
      List.append_assoc]
    exact (becomes_untilQuote_escaped (escaped_escapeChar c)).reads trivial ih

/-- The bytes of a text are this text, whether they are checked or not. -/
theorem reads_textOf (text : String) : Reads after (textOf (Text.encodeUtf8 text)) text after := by
  intro input holds
  refine ⟨input, ?_, holds⟩
  simp only [textOf, source, run_bind]
  cases input.source with
  | text => rw [Text.trustUtf8_encodeUtf8, run_pure]
  | stream => simp only [Text.decodeUtf8_encodeUtf8, run_pure]

/-- Behind its opening quote, a written string is read as its text. -/
theorem reads_string (text : String) :
    Reads (· = escapedBytes text ++ quote :: rest) string text (· = rest) := by
  refine (reads_escapedBytes text.toList).bind ?_
  have bytes : ((text.toList.flatMap String.utf8EncodeChar).reverse ++ []).reverse =
      Text.encodeUtf8 text := by
    rw [List.append_nil, List.reverse_reverse]
    rfl
  rw [bytes]
  exact reads_textOf text

end String

end Scl.Json

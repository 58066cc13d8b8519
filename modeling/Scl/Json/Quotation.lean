import Scl.Json.Reader

/-! # Strings in JSON text

A string is read from behind its opening quote to its closing one. Where its text is wanted,
escapes are resolved; the bytes of a stream then have to be UTF-8, those of a text are so already. A
string that is only skipped has to have well formed escapes, but what they stand for is not asked.
-/

namespace Scl.Json.Reader

/-- The byte that opens and closes a string. -/
def quote : UInt8 := '"'.toUInt8

/-- The byte that starts an escape. -/
def backslash : UInt8 := '\\'.toUInt8

/-- Gives byte after byte to `step`, up to the closing quote, which is taken too. -/
def runString {σ : Type} (step : σ → UInt8 → Reader σ) (state : σ) (input : Input) :
    Except Fault σ × Input :=
  match start : input.rest with
  | [] => (.error ⟨.endInString, some input.here⟩, input)
  | byte :: rest =>
    if byte = quote then (.ok state, input.drop 1)
    else
      match ran : (step state byte).run (input.drop 1) with
      | (.error fault, after) => (.error fault, after)
      | (.ok answer, after) =>
        have shorter : after.rest.length < input.rest.length := by
          have forward := (step state byte).forward (input.drop 1)
          simp only [ran, Input.length_rest_drop, start, List.length_cons] at forward ⊢
          omega
        runString step answer after
termination_by input.rest.length

theorem runString_forward {σ : Type} (step : σ → UInt8 → Reader σ) (state : σ) (input : Input) :
    (runString step state input).2.rest.length ≤ input.rest.length := by
  fun_induction runString step state input with
  | case1 => exact Nat.le_refl _
  | case2 => simp
  | case3 state input byte rest start notQuote fault after ran =>
    have forward := (step state byte).forward (input.drop 1)
    simp only [ran, Input.length_rest_drop] at forward ⊢
    omega
  | case4 state input byte rest start notQuote answer after ran shorter ih => omega

/-- Gives byte after byte to `step`, up to the closing quote, which is taken too. -/
def untilQuote {σ : Type} (step : σ → UInt8 → Reader σ) (state : σ) : Reader σ where
  run := runString step state
  forward := runString_forward step state

theorem run_untilQuote_nil {σ : Type} (step : σ → UInt8 → Reader σ) (state : σ) (taken : Nat)
    (peeked : Bool) (source : Source) :
    (untilQuote step state).run ⟨[], taken, peeked, source⟩ =
      (.error ⟨.endInString, some (Input.here ⟨[], taken, peeked, source⟩)⟩,
        ⟨[], taken, peeked, source⟩) := by
  simp [untilQuote, runString.eq_def]

theorem run_untilQuote_quote {σ : Type} (step : σ → UInt8 → Reader σ) (state : σ)
    (rest : List UInt8) (taken : Nat) (peeked : Bool) (source : Source) :
    (untilQuote step state).run ⟨quote :: rest, taken, peeked, source⟩ =
      (.ok state, ⟨rest, taken + 1, false, source⟩) := by
  simp [untilQuote, runString.eq_def, Input.drop]

/-- A byte that is not the closing quote goes to `step`, and reading goes on behind it. -/
theorem run_untilQuote_cons {σ : Type} (step : σ → UInt8 → Reader σ) (state : σ) {byte : UInt8}
    (rest : List UInt8) (taken : Nat) (peeked : Bool) (source : Source) (inside : byte ≠ quote) :
    (untilQuote step state).run ⟨byte :: rest, taken, peeked, source⟩ =
      (step state byte >>= untilQuote step).run ⟨rest, taken + 1, false, source⟩ := by
  have dropped : Input.drop ⟨byte :: rest, taken, peeked, source⟩ 1 =
      ⟨rest, taken + 1, false, source⟩ := by
    simp [Input.drop]
  simp only [untilQuote, run_bind]
  rw [runString.eq_def]
  simp only [inside, if_false, dropped]
  split <;> simp_all

def hexValue? (byte : UInt8) : Option Nat :=
  let digit := byte.toNat
  if 48 ≤ digit ∧ digit < 58 then some (digit - 48)
  else if 65 ≤ digit ∧ digit < 71 then some (digit - 55)
  else if 97 ≤ digit ∧ digit < 103 then some (digit - 87)
  else none

/-- The number that hexadecimal digits write. -/
def hexNumber? (digits : List UInt8) : Option Nat :=
  digits.foldlM (fun value digit => (hexValue? digit).map (value * 16 + ·)) 0

def fourDigits : Reader Nat := do
  let digits ← take 4
  if digits.length < 4 then fail .endInString
  match hexNumber? digits with
  | some value => return value
  | none => fail .invalidEscape

/-- The byte that a one-letter escape stands for. -/
def shortEscape? (letter : UInt8) : Option UInt8 :=
  [('"', '"'), ('\\', '\\'), ('/', '/'), ('b', '\x08'), ('f', '\x0c'), ('n', '\n'), ('r', '\r'),
    ('t', '\t')].findSome? fun (written, meant) =>
      if letter = written.toUInt8 then some meant.toUInt8 else none

/-- Whether a code unit may stand first in a surrogate pair. -/
def isHighSurrogate (unit : Nat) : Bool :=
  0xD800 ≤ unit && unit < 0xDC00

/-- Whether a code unit may stand second in a surrogate pair. -/
def isLowSurrogate (unit : Nat) : Bool :=
  0xDC00 ≤ unit && unit < 0xE000

/-- Takes a byte that has to follow inside a surrogate pair. -/
def pairByte (wanted : UInt8) : Reader Unit := do
  match ← next with
  | none => fail .endInString
  | some byte => if byte ≠ wanted then fail .unfinishedSurrogatePair

/-- Takes the digits of a numbered escape, and the other half of a surrogate pair. -/
def numberedEscape : Reader Char := do
  let unit ← fourDigits
  if isLowSurrogate unit then fail .loneSurrogate
  else if isHighSurrogate unit then
    pairByte backslash
    pairByte 'u'.toUInt8
    let second ← fourDigits
    if isLowSurrogate second then
      return Char.ofNat (0x10000 + (unit - 0xD800) * 0x400 + (second - 0xDC00))
    else fail .loneSurrogate
  else return Char.ofNat unit

/-- Takes the rest of an escape and gives the bytes that it stands for. -/
def escape : Reader (List UInt8) := do
  match ← next with
  | none => fail .endInString
  | some letter =>
    match shortEscape? letter with
    | some byte => return [byte]
    | none =>
      if letter = 'u'.toUInt8 then return String.utf8EncodeChar (← numberedEscape)
      else fail .invalidEscape

/-- Takes the rest of an escape without asking what it stands for. -/
def skipEscape : Reader Unit := do
  match ← next with
  | none => fail .endInString
  | some letter =>
    if (shortEscape? letter).isSome then return
    else if letter = 'u'.toUInt8 then
      let _ ← fourDigits
    else fail .invalidEscape

/-- One byte of a string, added to the bytes so far, the latest first. -/
def stringByte (reversed : List UInt8) (byte : UInt8) : Reader (List UInt8) := do
  if byte = backslash then return (← escape).reverse ++ reversed
  else if byte < 0x20 then fail .controlCharacter
  else return byte :: reversed

/-- One byte of a string that is skipped. In a text that is all there a control character is
reported in front of it, in a stream behind it. -/
def skippedByte (_ : Unit) (byte : UInt8) : Reader Unit := do
  if byte = backslash then skipEscape
  else if byte < 0x20 then
    failAt .controlCharacter fun input =>
      match input.source with
      | .text => some { input.here with count := input.taken - 1 }
      | .stream => some input.here

/-- The text that the bytes of a string are. In a stream, bytes that are no text are reported at the
first that is not; in a text there are none, so nothing is checked. -/
def textOf (bytes : List UInt8) : Reader String := do
  match ← source with
  | .text => return Text.trustUtf8 bytes
  | .stream =>
    match Text.decodeUtf8 bytes with
    | .ok text => return text
    | .error valid =>
      failAt .invalidUnicode fun input => some { input.here with back := bytes.length - valid }

def string : Reader String := do
  let reversed ← untilQuote stringByte []
  textOf reversed.reverse

def skipString : Reader Unit :=
  untilQuote skippedByte ()

end Scl.Json.Reader

import Scl.Json.Fault
import Scl.Text.Utf8

/-! # Reading bytes

A reader takes bytes from the front of its input and gives an answer or a fault, and in both cases
the input where it stopped. It never gives a byte back, which each reader carries as a proof; so a
loop that takes a byte in every round comes to an end, whatever else it reads. The place of a fault
depends on the source: a text that is all there counts the bytes that were taken, a stream also
counts a byte that was only looked at.
-/

namespace Scl.Json

/-- The bytes still to be read. -/
structure Input where
  rest : List UInt8
  /-- The number of bytes taken. -/
  taken : Nat
  /-- Whether the first of the rest was looked at. -/
  peeked : Bool
  source : Source
  deriving DecidableEq, Repr

namespace Input

/-- The input before any of the bytes of a source. -/
def ofBytes (source : Source) (bytes : List UInt8) : Input :=
  ⟨bytes, 0, false, source⟩

/-- The input after its first `count` bytes, with the next one not looked at. -/
def drop (input : Input) (count : Nat) : Input :=
  ⟨input.rest.drop count, input.taken + (input.rest.take count).length, false, input.source⟩

/-- The input whose next byte, if any, was looked at. -/
def look (input : Input) : Input :=
  { input with peeked := !input.rest.isEmpty }

/-- The place behind the last byte read. -/
def here (input : Input) : Place :=
  match input.source with
  | .text => { count := input.taken, back := 0 }
  | .stream => { count := input.taken + input.peeked.toNat, back := 0 }

/-- The place behind the next byte. -/
def ahead (input : Input) : Place :=
  { count := input.taken + (input.rest.take 1).length, back := 0 }

/-- The input after the longest beginning whose bytes all pass a test. The byte at which the
beginning ends was looked at. -/
def dropWhile (input : Input) (test : UInt8 → Bool) : Input :=
  (input.drop (input.rest.takeWhile test).length).look

@[simp] theorem length_rest_drop (input : Input) (count : Nat) :
    (input.drop count).rest.length = input.rest.length - count := by
  simp [drop]

@[simp] theorem rest_look (input : Input) : input.look.rest = input.rest := rfl

theorem length_rest_dropWhile_le (input : Input) (test : UInt8 → Bool) :
    (input.dropWhile test).rest.length ≤ input.rest.length := by
  simp [dropWhile]

end Input

/-- A step of reading, which never gives a byte back. -/
structure Reader (α : Type) where
  run : Input → Except Fault α × Input
  forward : ∀ input, (run input).2.rest.length ≤ input.rest.length

namespace Reader

variable {α β : Type}

protected def pure (answer : α) : Reader α where
  run input := (.ok answer, input)
  forward _ := Nat.le_refl _

/-- Reads on with what was answered, unless there was a fault. -/
protected def bind (reader : Reader α) (next : α → Reader β) : Reader β where
  run input :=
    match reader.run input with
    | (.ok answer, after) => (next answer).run after
    | (.error fault, after) => (.error fault, after)
  forward input := by
    have first := reader.forward input
    split
    · next answer after ran =>
      rw [ran] at first
      exact Nat.le_trans ((next answer).forward after) first
    · next fault after ran =>
      rw [ran] at first
      exact first

instance : Monad Reader where
  pure := Reader.pure
  bind := Reader.bind

@[simp] theorem run_pure (answer : α) (input : Input) :
    (pure answer : Reader α).run input = (.ok answer, input) := rfl

theorem run_bind (reader : Reader α) (next : α → Reader β) (input : Input) :
    (reader >>= next).run input =
      match reader.run input with
      | (.ok answer, after) => (next answer).run after
      | (.error fault, after) => (.error fault, after) := rfl

/-- Fails with a cause at a place. -/
def failAt (cause : Cause) (place : Input → Option Place) : Reader α where
  run input := (.error ⟨cause, place input⟩, input)
  forward _ := Nat.le_refl _

/-- Fails behind the last byte read. -/
def fail (cause : Cause) : Reader α :=
  failAt cause fun input => some input.here

/-- Fails behind the next byte. -/
def failAhead (cause : Cause) : Reader α :=
  failAt cause fun input => some input.ahead

/-- Fails at a place that is known only when reading has left the brackets around. -/
def failLater (cause : Cause) : Reader α :=
  failAt cause fun _ => none

def attempt (reader : Reader α) : Reader (Except Fault α) where
  run input := (.ok (reader.run input).1, (reader.run input).2)
  forward input := reader.forward input

/-- Answers with an outcome that was attempted before. -/
def ofOutcome : Except Fault α → Reader α
  | .ok answer => pure answer
  | .error fault => failAt fault.cause fun _ => fault.place

/-- Tells where the bytes come from. -/
def source : Reader Source where
  run input := (.ok input.source, input)
  forward _ := Nat.le_refl _

def peek : Reader (Option UInt8) where
  run input := (.ok input.rest.head?, input.look)
  forward _ := Nat.le_refl _

/-- Takes the next bytes, or all of them if there are fewer, and looks no further. -/
def take (count : Nat) : Reader (List UInt8) where
  run input := (.ok (input.rest.take count), input.drop count)
  forward input := by simp

def skip : Reader Unit := do
  let _ ← take 1

def next : Reader (Option UInt8) where
  run input :=
    match input.rest with
    | [] => (.ok none, input)
    | byte :: _ => (.ok (some byte), input.drop 1)
  forward input := by split <;> simp

/-- Takes the longest beginning whose bytes all pass a test. -/
def takeWhile (test : UInt8 → Bool) : Reader (List UInt8) where
  run input := (.ok (input.rest.takeWhile test), input.dropWhile test)
  forward input := input.length_rest_dropWhile_le test

/-- Tells which bytes `takeWhile` would take. -/
def aheadWhile (test : UInt8 → Bool) : Reader (List UInt8) where
  run input := (.ok (input.rest.takeWhile test), input.look)
  forward _ := Nat.le_refl _

/-- The bytes that may stand between the parts of a JSON text. -/
def isBlank (byte : UInt8) : Bool :=
  byte == ' '.toUInt8 || byte == '\n'.toUInt8 || byte == '\t'.toUInt8 || byte == '\r'.toUInt8

/-- Skips blanks and looks at the byte after them. -/
def blanks : Reader (Option UInt8) := do
  let _ ← takeWhile isBlank
  peek

theorem run_blanks (input : Input) :
    blanks.run input =
      (.ok (input.dropWhile isBlank).rest.head?, (input.dropWhile isBlank).look) := rfl

/-- Takes exactly these bytes. -/
def exactly : List UInt8 → Reader Unit
  | [] => pure ()
  | wanted :: others => do
    match ← next with
    | none => fail .endInValue
    | some byte => if byte = wanted then exactly others else fail .expectedIdent

/-- Takes the letters of a fixed word. -/
def word (letters : String) : Reader Unit :=
  exactly (Text.encodeUtf8 letters)

/-- Looks at the first byte of a value, which has to be there. -/
def need : Reader UInt8 := do
  match ← blanks with
  | none => failAhead .endInValue
  | some byte => return byte

end Reader

end Scl.Json

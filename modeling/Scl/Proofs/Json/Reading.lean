import Scl.Json.Quotation

/-! # What a reader reads

A reader that succeeds is described by the bytes to come before it and after it, and by its answer
(`Reads`). It does not matter where the bytes come from, how many of them were taken and whether the
next one was looked at; what is read is the same from a text and from a stream. A loop is described
by what is left of it behind some bytes (`Becomes`), so that its end need not be known.
-/

namespace Scl.Json

namespace Reader

variable {α β : Type}

/-- Readers that do the same on every input are equal: the proof that none gives a byte back is no
part of what a reader does. -/
theorem ext {reader other : Reader α} (same : ∀ input, reader.run input = other.run input) :
    reader = other := by
  obtain ⟨run, forward⟩ := reader
  obtain ⟨otherRun, otherForward⟩ := other
  obtain rfl : run = otherRun := funext same
  rfl

instance : LawfulMonad Reader :=
  have mapped {α : Type} (reader : Reader α) : id <$> reader = reader := by
    refine ext fun input => ?_
    change (reader >>= pure).run input = _
    rw [run_bind]
    rcases reader.run input with ⟨_ | _, _⟩ <;> rfl
  have regrouped {α β γ : Type} (reader : Reader α) (next : α → Reader β) (later : β → Reader γ) :
      reader >>= next >>= later = reader >>= fun answer => next answer >>= later := by
    refine ext fun input => ?_
    simp only [run_bind]
    rcases reader.run input with ⟨_ | _, _⟩ <;> rfl
  LawfulMonad.mk' Reader mapped (fun _ _ => rfl) regrouped

/-- From every input whose bytes to come satisfy `before`, the reader gives this answer, and the
bytes then to come satisfy `after`. -/
def Reads (before : List UInt8 → Prop) (reader : Reader α) (answer : α)
    (after : List UInt8 → Prop) : Prop :=
  ∀ input, before input.rest → ∃ last, reader.run input = (.ok answer, last) ∧ after last.rest

section Rules

variable {before between after : List UInt8 → Prop} {reader : Reader α} {answer : α}

theorem Reads.pure (answer : α) : Reads after (pure answer : Reader α) answer after :=
  fun input holds => ⟨input, rfl, holds⟩

theorem Reads.bind {next : α → Reader β} {result : β} (first : Reads before reader answer between)
    (second : Reads between (next answer) result after) :
    Reads before (reader >>= next) result after := by
  intro input holds
  obtain ⟨middle, ran, holds⟩ := first input holds
  obtain ⟨last, later, holds⟩ := second middle holds
  refine ⟨last, ?_, holds⟩
  rw [run_bind, ran]
  exact later

theorem Reads.weaken {stronger : List UInt8 → Prop} (reads : Reads before reader answer after)
    (implies : ∀ bytes, stronger bytes → before bytes) : Reads stronger reader answer after :=
  fun input holds => reads input (implies _ holds)

theorem Reads.of_run_eq {other : Reader α} (same : ∀ input, reader.run input = other.run input)
    (reads : Reads before other answer after) : Reads before reader answer after := by
  intro input holds
  rw [same]
  exact reads input holds

theorem Reads.attempt (reads : Reads before reader answer after) :
    Reads before (attempt reader) (.ok answer) after := by
  intro input holds
  obtain ⟨last, ran, holds⟩ := reads input holds
  refine ⟨last, ?_, holds⟩
  simp only [Reader.attempt, ran]

end Rules

def Anything (_ : List UInt8) : Prop :=
  True

/-- From every input with these bytes in front of something that may follow, the reader does what
the other one does behind the bytes. -/
def Becomes (follow : List UInt8 → Prop) (bytes : List UInt8) (reader other : Reader α) : Prop :=
  ∀ input rest, follow rest → input.rest = bytes ++ rest →
    ∃ later, later.rest = rest ∧ reader.run input = other.run later

section Becomes

variable {follow front : List UInt8 → Prop} {bytes others : List UInt8}
  {reader middle other : Reader α}

theorem Becomes.of_reads {answer : α} {next : α → Reader β}
    (reads : ∀ rest, follow rest → Reads (· = bytes ++ rest) reader answer (· = rest)) :
    Becomes follow bytes (reader >>= next) (next answer) := by
  intro input rest follows here
  obtain ⟨later, ran, left⟩ := reads rest follows input here
  refine ⟨later, left, ?_⟩
  rw [run_bind, ran]

theorem Becomes.trans (first : Becomes front bytes reader middle)
    (second : Becomes follow others middle other)
    (meets : ∀ rest, follow rest → front (others ++ rest)) :
    Becomes follow (bytes ++ others) reader other := by
  intro input rest follows here
  rw [List.append_assoc] at here
  obtain ⟨between, left, ran⟩ := first input _ (meets rest follows) here
  obtain ⟨later, left, continued⟩ := second between rest follows left
  exact ⟨later, left, ran.trans continued⟩

theorem Becomes.weaken (becomes : Becomes front bytes reader other)
    (implies : ∀ rest, follow rest → front rest) : Becomes follow bytes reader other :=
  fun input rest follows => becomes input rest (implies rest follows)

theorem Becomes.of_eq (becomes : Becomes follow bytes reader middle) (same : middle = other) :
    Becomes follow bytes reader other :=
  same ▸ becomes

theorem Becomes.bind {next : α → Reader β} (becomes : Becomes follow bytes reader other) :
    Becomes follow bytes (reader >>= next) (other >>= next) := by
  intro input rest follows here
  obtain ⟨later, left, ran⟩ := becomes input rest follows here
  refine ⟨later, left, ?_⟩
  rw [run_bind, run_bind, ran]

theorem Becomes.reads {rest : List UInt8} {answer : α} {after : List UInt8 → Prop}
    (becomes : Becomes follow bytes reader other) (follows : follow rest)
    (reads : Reads (· = rest) other answer after) :
    Reads (· = bytes ++ rest) reader answer after := by
  intro input here
  obtain ⟨later, left, ran⟩ := becomes input rest follows here
  rw [ran]
  exact reads later left

end Becomes

section Bytes

variable {byte : UInt8} {bytes rest : List UInt8}

theorem reads_take : Reads (· = bytes ++ rest) (take bytes.length) bytes (· = rest) := by
  rintro ⟨_, taken, peeked, source⟩ rfl
  refine ⟨Input.drop ⟨bytes ++ rest, taken, peeked, source⟩ bytes.length, ?_, List.drop_left⟩
  simp only [take, List.take_left]

theorem reads_skip : Reads (· = byte :: rest) skip () (· = rest) := by
  have taken : Reads (· = [byte] ++ rest) (take [byte].length) [byte] (· = rest) := reads_take
  exact taken.bind (.pure ())

theorem reads_next : Reads (· = byte :: rest) next (some byte) (· = rest) := by
  rintro ⟨_, taken, peeked, source⟩ rfl
  exact ⟨_, rfl, rfl⟩

/-- The letters of a word are taken in turn. -/
theorem reads_word (letters : String) :
    Reads (· = Text.encodeUtf8 letters ++ rest) (word letters) () (· = rest) := by
  rw [word]
  induction Text.encodeUtf8 letters with
  | nil => exact .pure ()
  | cons byte bytes ih =>
    refine reads_next.bind ?_
    simp only [if_true]
    exact ih

theorem reads_peek : Reads (· = byte :: rest) peek (some byte) (· = byte :: rest) := by
  rintro ⟨_, taken, peeked, source⟩ rfl
  exact ⟨_, rfl, rfl⟩

theorem reads_look : Reads (· = rest) peek rest.head? (· = rest) := by
  rintro ⟨_, taken, peeked, source⟩ rfl
  exact ⟨_, rfl, rfl⟩

/-- Where everything that may follow is dealt with alike, a look ahead makes no difference. -/
theorem becomes_peek {α : Type} {follow : List UInt8 → Prop} {next : Option UInt8 → Reader α}
    {other : Reader α} (same : ∀ rest, follow rest → next rest.head? = other) :
    Becomes follow [] (peek >>= next) other := by
  intro input rest follows here
  obtain rfl : input.rest = rest := here
  refine ⟨input.look, rfl, ?_⟩
  rw [run_bind, ← same input.rest follows]
  rfl

theorem takeWhile_append {test : UInt8 → Bool} (all : ∀ byte ∈ bytes, test byte = true)
    (stops : ∀ byte ∈ rest.head?, test byte = false) : (bytes ++ rest).takeWhile test = bytes := by
  have none : rest.takeWhile test = [] := by
    cases rest with
    | nil => rfl
    | cons byte rest => exact List.takeWhile_cons_of_neg (by simp [stops byte rfl])
  rw [List.takeWhile_append_of_pos all, none, List.append_nil]

/-- Bytes that pass a test are taken up to the first one that does not. -/
theorem reads_takeWhile {test : UInt8 → Bool} (all : ∀ byte ∈ bytes, test byte = true)
    (stops : ∀ byte ∈ rest.head?, test byte = false) :
    Reads (· = bytes ++ rest) (takeWhile test) bytes (· = rest) := by
  rintro ⟨_, taken, peeked, source⟩ rfl
  have run := takeWhile_append all stops
  refine ⟨Input.dropWhile ⟨bytes ++ rest, taken, peeked, source⟩ test, ?_, ?_⟩
  · simp only [takeWhile, run]
  · simp only [Input.dropWhile, Input.rest_look, Input.drop, run, List.drop_left]

/-- The bytes that pass a test are told, and all of them are still to come. -/
theorem reads_aheadWhile {test : UInt8 → Bool} (all : ∀ byte ∈ bytes, test byte = true)
    (stops : ∀ byte ∈ rest.head?, test byte = false) :
    Reads (· = bytes ++ rest) (aheadWhile test) bytes (· = bytes ++ rest) := by
  rintro ⟨_, taken, peeked, source⟩ rfl
  refine ⟨Input.look ⟨bytes ++ rest, taken, peeked, source⟩, ?_, rfl⟩
  simp only [aheadWhile, takeWhile_append all stops]

/-- Blanks are skipped up to the first byte that is none. -/
theorem reads_blanks {gap : List UInt8} (blank : ∀ byte ∈ gap, isBlank byte = true)
    (stops : ∀ byte ∈ rest.head?, isBlank byte = false) :
    Reads (· = gap ++ rest) blanks rest.head? (· = rest) :=
  (reads_takeWhile blank stops).bind reads_look

end Bytes

end Reader

end Scl.Json

import Scl.Json.Bracket
import Scl.Json.Quotation
import Scl.Proofs.Json.Reading
import Scl.Proofs.Text.Utf8

/-! # Two readings of the same bytes

Two inputs may have the same bytes to come and nothing else in common: one may belong to a text and
the other to a stream, and they may have been read to different lengths. A reader agrees on them
when it gives the same answer from both, or fails with the same cause (`Agrees`). The places of the
two faults are not compared, only that both faults have one. What has to hold of the bytes to come
is carried along, for a stream is checked where a text is trusted: nearly everywhere it is enough
that a text ends with these bytes, but a string has to begin between two characters.
-/

namespace Scl.Json.Reader

open Text (IsText IsTextEnd)

variable {α β σ : Type}

/-- Two readings end with the same answer, such that `after` holds of it and of the bytes to come,
or with the same cause. The faults have a place, unless they may get theirs later. -/
inductive EndAlike (late : Prop) (after : α → List UInt8 → Prop) :
    Except Fault α × Input → Except Fault α × Input → Prop where
  | ok {answer : α} {here there : Input} (same : here.rest = there.rest)
    (holds : after answer here.rest) : EndAlike late after (.ok answer, here) (.ok answer, there)
  | placed (cause : Cause) (place otherPlace : Place) (here there : Input) :
    EndAlike late after (.error ⟨cause, some place⟩, here) (.error ⟨cause, some otherPlace⟩, there)
  | unplaced (cause : Cause) (here there : Input) (allowed : late) :
    EndAlike late after (.error ⟨cause, none⟩, here) (.error ⟨cause, none⟩, there)

/-- From any two inputs with the same bytes to come, of which `before` holds, the reader ends
alike. -/
def Agrees (late : Prop) (before : List UInt8 → Prop) (reader : Reader α)
    (after : α → List UInt8 → Prop) : Prop :=
  ∀ here there : Input, here.rest = there.rest → before here.rest →
    EndAlike late after (reader.run here) (reader.run there)

/-- The reader agrees wherever the bytes to come are the last of a text. -/
abbrev Steady (late : Prop) (reader : Reader α) : Prop :=
  Agrees late IsTextEnd reader fun _ => IsTextEnd

/-- The bytes to come start with this byte, or there are none, and a text ends with them. -/
def At (head : Option UInt8) (rest : List UInt8) : Prop :=
  rest.head? = head ∧ IsTextEnd rest

section Rules

variable {late : Prop} {before : List UInt8 → Prop} {between : α → List UInt8 → Prop}
  {after : β → List UInt8 → Prop} {reader : Reader α}

theorem agrees_pure {answer : β} (holds : ∀ rest, before rest → after answer rest) :
    Agrees late before (pure answer) after :=
  fun _ _ same start => .ok same (holds _ start)

theorem Agrees.bind {next : α → Reader β} (first : Agrees late before reader between)
    (second : ∀ answer, Agrees late (between answer) (next answer) after) :
    Agrees late before (reader >>= next) after := by
  intro here there same holds
  have ran := first here there same holds
  rw [run_bind, run_bind]
  generalize reader.run here = result at ran
  generalize reader.run there = otherResult at ran
  cases ran with
  | ok same holds => exact second _ _ _ same holds
  | placed => exact .placed ..
  | unplaced _ _ _ allowed => exact .unplaced _ _ _ allowed

theorem Agrees.mono {stronger : List UInt8 → Prop} {weaker : α → List UInt8 → Prop}
    (agrees : Agrees late before reader between) (starts : ∀ rest, stronger rest → before rest)
    (ends : ∀ answer rest, between answer rest → weaker answer rest) :
    Agrees late stronger reader weaker := by
  intro here there same holds
  have ran := agrees here there same (starts _ holds)
  generalize reader.run here = result at ran
  generalize reader.run there = otherResult at ran
  cases ran with
  | ok same holds => exact .ok same (ends _ _ holds)
  | placed => exact .placed ..
  | unplaced _ _ _ allowed => exact .unplaced _ _ _ allowed

theorem Agrees.weaken {stronger : List UInt8 → Prop} (agrees : Agrees late before reader between)
    (starts : ∀ rest, stronger rest → before rest) : Agrees late stronger reader between :=
  agrees.mono starts fun _ _ => id

theorem Agrees.of_run_eq {other : Reader α} (same : ∀ input, reader.run input = other.run input)
    (agrees : Agrees late before other between) : Agrees late before reader between := by
  intro here there rest holds
  rw [same, same]
  exact agrees here there rest holds

theorem agrees_failAt {cause : Cause} {place : Input → Option Place}
    (placed : ∀ input, (place input).isSome) : Agrees late before (failAt cause place) after := by
  intro here there _ _
  obtain ⟨known, placedHere⟩ := Option.isSome_iff_exists.mp (placed here)
  obtain ⟨otherKnown, placedThere⟩ := Option.isSome_iff_exists.mp (placed there)
  simp only [failAt, placedHere, placedThere]
  exact .placed ..

theorem agrees_fail {cause : Cause} : Agrees late before (fail cause) after :=
  agrees_failAt fun _ => rfl

theorem agrees_failAhead {cause : Cause} : Agrees late before (failAhead cause) after :=
  agrees_failAt fun _ => rfl

theorem agrees_failLater {cause : Cause} : Agrees True before (failLater cause) after :=
  fun _ _ _ _ => .unplaced _ _ _ trivial

/-- A reader agrees if what it reads depends on the bytes to come alone. -/
theorem agrees_of_reads
    (reads : ∀ rest, before rest →
      ∃ answer left, Reads (· = rest) reader answer (· = left) ∧ between answer left) :
    Agrees late before reader between := by
  intro here there same holds
  obtain ⟨answer, left, reads, kept⟩ := reads _ holds
  obtain ⟨last, ran, rfl⟩ := reads here rfl
  obtain ⟨otherLast, otherRan, left⟩ := reads there same.symm
  rw [ran, otherRan]
  exact .ok left.symm kept

/-- What holds of no bytes in particular may be used to show that a reader agrees. -/
theorem agrees_of_fact {fact : Prop} (agrees : fact → Agrees late before reader between) :
    Agrees late (fun rest => fact ∧ before rest) reader between :=
  fun here there same holds => agrees holds.1 here there same holds.2

/-- Behind a reader that always stops with a fault, nothing is read. -/
theorem agrees_stop {next : α → Reader β} (stops : Agrees late before reader fun _ _ => False) :
    Agrees late before (reader >>= next) after :=
  stops.bind fun _ _ _ _ impossible => impossible.elim

/-- A reader that goes on unless it stops with a fault. -/
theorem agrees_unless {unfit : Prop} [Decidable unfit] {stop : Reader Unit}
    {next : Unit → Reader β} (stops : Agrees late before stop fun _ _ => False)
    (continues : ¬unfit → Agrees late before (next ()) after) :
    Agrees late before (if unfit then stop >>= next else next ()) after := by
  split
  · exact agrees_stop stops
  · next fit => exact continues fit

/-- Two ways to begin, and one way to read on. -/
theorem agrees_either {choice : Prop} [Decidable choice] {other : Reader α} {next : α → Reader β}
    (first : Agrees late before reader between) (second : Agrees late before other between)
    (continues : ∀ answer, Agrees late (between answer) (next answer) after) :
    Agrees late before (if choice then reader >>= next else other >>= next) after := by
  split
  · exact first.bind continues
  · exact second.bind continues

/-- What one reading ends with, both do. -/
theorem Agrees.and {further : α → List UInt8 → Prop} (agrees : Agrees late before reader between)
    (ends : ∀ input answer last, before input.rest → reader.run input = (.ok answer, last) →
      further answer last.rest) :
    Agrees late before reader fun answer rest => between answer rest ∧ further answer rest := by
  intro here there same holds
  have ran := agrees here there same holds
  have ended := ends here
  generalize reader.run here = result at ran ended
  generalize reader.run there = otherResult at ran
  cases ran with
  | ok same kept => exact .ok same ⟨kept, ended _ _ holds rfl⟩
  | placed => exact .placed ..
  | unplaced _ _ _ allowed => exact .unplaced _ _ _ allowed

/-- No reader gives bytes back, so a bound on the bytes to come is kept. -/
theorem Agrees.shorter (agrees : Agrees late before reader between) (count : Nat) :
    Agrees late (fun rest => before rest ∧ rest.length < count) reader
      fun answer rest => between answer rest ∧ rest.length < count := by
  refine (agrees.weaken fun _ => And.left).and fun input answer last holds ran => ?_
  have forward := reader.forward input
  rw [ran] at forward
  exact Nat.lt_of_le_of_lt forward holds.2

/-- A loop agrees if each round does when all that is read with fewer bytes to come does. -/
theorem agrees_of_rounds (before : σ → List UInt8 → Prop) {loop : σ → Reader β}
    (round : ∀ count,
      (∀ state, Agrees late (fun rest => before state rest ∧ rest.length < count) (loop state)
        after) →
      ∀ state, Agrees late (fun rest => before state rest ∧ rest.length = count) (loop state)
        after) (state : σ) :
    Agrees late (before state) (loop state) after := by
  have every (count : Nat) : ∀ state,
      Agrees late (fun rest => before state rest ∧ rest.length = count) (loop state) after := by
    induction count using Nat.strongRecOn with
    | ind count ih =>
      refine round count fun state here there same ⟨holds, short⟩ => ?_
      exact ih _ short state here there same ⟨holds, rfl⟩
  exact fun here there same holds => every _ state here there same ⟨holds, rfl⟩

end Rules

section Bytes

variable {late : Prop} {before : List UInt8 → Prop} {byte : UInt8}

/-- What is taken and what is then to come make up what was to come. -/
theorem agrees_take (count : Nat) :
    Agrees late before (take count) fun taken rest => before (taken ++ rest) := by
  intro here there same holds
  simp only [take, same]
  refine .ok ?_ ?_
  · simp only [Input.drop, same]
  · simp only [Input.drop, same, List.take_append_drop]
    rwa [← same]

theorem agrees_takeWhile (test : UInt8 → Bool) :
    Agrees late before (takeWhile test) fun taken rest => before (taken ++ rest) := by
  intro here there same holds
  simp only [takeWhile, same]
  refine .ok ?_ ?_
  · simp only [Input.dropWhile, Input.rest_look, Input.drop, same]
  · have whole : there.rest.takeWhile test ++
        there.rest.drop (there.rest.takeWhile test).length = there.rest :=
      List.prefix_iff_eq_append.mp (List.takeWhile_prefix test)
    simp only [Input.dropWhile, Input.rest_look, Input.drop, same, whole]
    rwa [← same]

theorem agrees_next :
    Agrees late before next fun head rest => before (head.toList ++ rest) := by
  rintro ⟨rest, taken, peeked, source⟩ ⟨_, otherTaken, otherPeeked, otherSource⟩ rfl holds
  cases rest with
  | nil => exact .ok rfl holds
  | cons byte rest => exact .ok rfl holds

theorem agrees_peek : Agrees late IsTextEnd peek At := by
  intro here there same holds
  simp only [peek, same]
  refine .ok same ⟨?_, holds⟩
  rw [Input.rest_look, same]

theorem steady_pure (answer : β) : Steady late (pure answer : Reader β) :=
  agrees_pure fun _ => id

theorem steady_peek : Steady late peek :=
  agrees_peek.mono (fun _ => id) fun _ _ holds => holds.2

theorem steady_take (count : Nat) : Steady late (take count) :=
  (agrees_take count).mono (fun _ => id) fun _ _ => IsTextEnd.of_append

theorem steady_takeWhile (test : UInt8 → Bool) : Steady late (takeWhile test) :=
  (agrees_takeWhile test).mono (fun _ => id) fun _ _ => IsTextEnd.of_append

theorem steady_next : Steady late next :=
  agrees_next.mono (fun _ => id) fun _ _ => IsTextEnd.of_append

theorem steady_aheadWhile (test : UInt8 → Bool) : Steady late (aheadWhile test) := by
  intro here there same holds
  simp only [aheadWhile, same]
  exact .ok same holds

theorem steady_skip : Steady late skip :=
  (steady_take 1).bind fun _ => steady_pure ()

theorem At.isTextEnd {head : Option UInt8} {rest : List UInt8} (here : At head rest) :
    IsTextEnd rest :=
  here.2

/-- Behind a byte that was looked at come the last bytes of a text again. -/
theorem agrees_skip : Agrees late (At (some byte)) skip fun _ => IsTextEnd :=
  steady_skip.weaken fun _ => At.isTextEnd

/-- A byte of ASCII stands alone, so a text begins behind it. -/
theorem agrees_skip_ascii (ascii : byte.toNat < 128) :
    Agrees late (At (some byte)) skip fun _ => IsText := by
  rintro ⟨rest, taken, peeked, source⟩ ⟨_, otherTaken, otherPeeked, otherSource⟩ rfl ⟨head, holds⟩
  cases rest with
  | nil => cases head
  | cons first rest =>
    obtain rfl := Option.some.inj head
    exact .ok rfl (holds.isText_tail ascii)

theorem agrees_skip_quote : Agrees late (At (some quote)) skip fun _ => IsText :=
  agrees_skip_ascii (by decide)

/-- Taking a byte that is there leaves fewer bytes to come. -/
theorem agrees_skip_shorter (count : Nat) :
    Agrees late (fun rest => At (some byte) rest ∧ rest.length < count + 1) skip
      fun _ rest => IsTextEnd rest ∧ rest.length < count := by
  refine (agrees_skip.weaken fun _ => And.left).and fun input _ last holds ran => ?_
  obtain ⟨⟨head, _⟩, short⟩ := holds
  have left : input.drop 1 = last := congrArg Prod.snd ran
  have taken := Input.length_rest_drop input 1
  rw [left] at taken
  have some : 0 < input.rest.length := by
    cases rest : input.rest with
    | nil => rw [rest] at head; cases head
    | cons => exact Nat.succ_pos _
  omega

theorem agrees_blanks : Agrees late IsTextEnd blanks At :=
  (steady_takeWhile isBlank).bind fun _ => agrees_peek

theorem agrees_need : Agrees late IsTextEnd need fun byte => At (some byte) := by
  refine agrees_blanks.bind fun head => ?_
  cases head with
  | none => exact agrees_failAhead
  | some byte => exact agrees_pure fun _ => id

theorem steady_exactly (wanted : List UInt8) : Steady late (exactly wanted) := by
  induction wanted with
  | nil => exact steady_pure ()
  | cons byte wanted ih =>
    refine steady_next.bind fun head => ?_
    cases head with
    | none => exact agrees_fail
    | some other =>
      dsimp only
      split
      · exact ih
      · exact agrees_fail

theorem steady_word (letters : String) : Steady late (word letters) :=
  steady_exactly _

end Bytes

section Loops

variable {late : Prop} {after : σ → List UInt8 → Prop}

/-- A string is read alike if each of its bytes is. What holds inside of it is said of the state and
of all the bytes to come, up to the closing quote and behind it. -/
theorem agrees_untilQuote {step : σ → UInt8 → Reader σ} (inside : σ → List UInt8 → Prop)
    (closes : ∀ state rest, inside state (quote :: rest) → after state rest)
    (steps : ∀ state byte, byte ≠ quote →
      Agrees late (fun rest => inside state (byte :: rest)) (step state byte) inside) (state : σ) :
    Agrees late (inside state) (untilQuote step state) after := by
  refine agrees_of_rounds inside (fun count later state => ?_) state
  rintro ⟨rest, taken, peeked, source⟩ ⟨_, otherTaken, otherPeeked, otherSource⟩ rfl ⟨holds, length⟩
  cases rest with
  | nil =>
    rw [run_untilQuote_nil, run_untilQuote_nil]
    exact .placed ..
  | cons byte rest =>
    by_cases closing : byte = quote
    · subst closing
      rw [run_untilQuote_quote, run_untilQuote_quote]
      exact .ok rfl (closes _ _ holds)
    · rw [run_untilQuote_cons _ _ _ _ _ _ closing, run_untilQuote_cons _ _ _ _ _ _ closing]
      have step := ((steps state byte closing).shorter count).bind later
      exact step _ _ rfl ⟨holds, by simp only [List.length_cons] at length ⊢; omega⟩

end Loops

end Scl.Json.Reader

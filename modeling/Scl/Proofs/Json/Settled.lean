import Scl.Json.Bracket
import Scl.Proofs.Json.Reading

/-! # What is settled by the bytes at the front

A reader that looks no further than the value in front of it cannot tell what stands behind the
value. So bytes settle what it does: it takes exactly these bytes, with the same answer, or it fails
with the same cause, whatever follows them (`Settled`). A number has no end of its own, so what may
follow it is restricted to what may follow a value. Steps that are settled make a reader that is.
-/

namespace Scl.Json.Reader

variable {α β : Type} {before between : List UInt8 → Prop} {reader : Reader α} {cause : Cause}

/-- From every input whose bytes to come satisfy `before`, the reader fails with this cause. -/
def Refuses (before : List UInt8 → Prop) (reader : Reader α) (cause : Cause) : Prop :=
  ∀ input, before input.rest → ∃ place last, reader.run input = (.error ⟨cause, place⟩, last)

theorem Refuses.bind {next : α → Reader β} (refuses : Refuses before reader cause) :
    Refuses before (reader >>= next) cause := by
  intro input holds
  obtain ⟨place, last, ran⟩ := refuses input holds
  refine ⟨place, last, ?_⟩
  rw [run_bind, ran]

theorem Reads.bind_refuses {answer : α} {next : α → Reader β}
    (reads : Reads before reader answer between) (refuses : Refuses between (next answer) cause) :
    Refuses before (reader >>= next) cause := by
  intro input holds
  obtain ⟨middle, ran, holds⟩ := reads input holds
  obtain ⟨place, last, failed⟩ := refuses middle holds
  refine ⟨place, last, ?_⟩
  rw [run_bind, ran]
  exact failed

theorem refuses_failAt (place : Input → Option Place) :
    Refuses before (failAt cause place : Reader α) cause :=
  fun input _ => ⟨place input, input, rfl⟩

theorem refuses_fail : Refuses before (fail cause : Reader α) cause :=
  refuses_failAt _

theorem refuses_failAhead : Refuses before (failAhead cause : Reader α) cause :=
  refuses_failAt _

theorem refuses_failLater : Refuses before (failLater cause : Reader α) cause :=
  refuses_failAt _

/-- These bytes decide what the reader does, whatever follows them as far as it may: it takes the
bytes with this answer, or it fails with this cause. -/
inductive Decides (follow : List UInt8 → Prop) (bytes : List UInt8) (reader : Reader α) :
    Except Cause α → Prop where
  | reads {answer : α}
    (reads : ∀ rest, follow rest → Reads (· = bytes ++ rest) reader answer (· = rest)) :
    Decides follow bytes reader (.ok answer)
  | refuses {cause : Cause}
    (refuses : ∀ rest, follow rest → Refuses (· = bytes ++ rest) reader cause) :
    Decides follow bytes reader (.error cause)

/-- These bytes decide what the reader does. -/
def Settled (follow : List UInt8 → Prop) (bytes : List UInt8) (reader : Reader α) : Prop :=
  ∃ outcome, Decides follow bytes reader outcome

/-- These bytes may follow, and then what may follow them. -/
def Before (bytes : List UInt8) (follow : List UInt8 → Prop) (rest : List UInt8) : Prop :=
  ∃ behind, follow behind ∧ rest = bytes ++ behind

/-- What may follow a value: a blank, a comma, a closing bracket, or nothing. -/
def Delimited (rest : List UInt8) : Prop :=
  ∀ byte ∈ rest.head?,
    isBlank byte = true ∨ byte = comma ∨ ∃ bracket, byte = Bracket.closing bracket

theorem delimited_nil : Delimited [] :=
  nofun

theorem delimited_comma (rest : List UInt8) : Delimited (comma :: rest) := by
  rintro byte ⟨⟩
  exact .inr (.inl rfl)

theorem delimited_closing (bracket : Bracket) (rest : List UInt8) :
    Delimited (bracket.closing :: rest) := by
  rintro byte ⟨⟩
  exact .inr (.inr ⟨bracket, rfl⟩)

/-- Blanks may follow a value, and what may follow a value may follow these blanks. -/
theorem Delimited.append {gap rest : List UInt8} (blank : ∀ byte ∈ gap, isBlank byte = true)
    (delimited : Delimited rest) : Delimited (gap ++ rest) := by
  cases gap with
  | nil => exact delimited
  | cons byte gap =>
    rintro _ ⟨⟩
    exact .inl (blank byte (List.mem_cons_self ..))

section Rules

variable {follow front : List UInt8 → Prop} {bytes others : List UInt8} {other : Reader α}
  {next : α → Reader β}

theorem Refuses.of_becomes {rest : List UInt8} (refuses : Refuses (· = rest) other cause)
    (becomes : Becomes follow bytes reader other) (follows : follow rest) :
    Refuses (· = bytes ++ rest) reader cause := by
  intro input here
  obtain ⟨later, left, ran⟩ := becomes input rest follows here
  rw [ran]
  exact refuses later left

/-- What comes down to a reader behind some bytes is decided by these bytes and those that decide
the reader. -/
theorem Decides.of_becomes {outcome : Except Cause α}
    (decides : Decides follow others other outcome)
    (becomes : Becomes front bytes reader other)
    (meets : ∀ rest, follow rest → front (others ++ rest)) :
    Decides follow (bytes ++ others) reader outcome := by
  cases decides with
  | reads reads =>
    refine .reads fun rest follows => ?_
    rw [List.append_assoc]
    exact becomes.reads (meets rest follows) (reads rest follows)
  | refuses refuses =>
    refine .refuses fun rest follows => ?_
    rw [List.append_assoc]
    exact (refuses rest follows).of_becomes becomes (meets rest follows)

theorem Decides.bind_error (decides : Decides front bytes reader (.error cause))
    (meets : ∀ rest, follow rest → front (others ++ rest)) :
    Decides follow (bytes ++ others) (reader >>= next) (.error cause) := by
  cases decides with
  | refuses refuses =>
    refine .refuses fun rest follows => ?_
    rw [List.append_assoc]
    exact (refuses _ (meets rest follows)).bind

theorem Decides.becomes {answer : α} (decides : Decides follow bytes reader (.ok answer)) :
    Becomes follow bytes (reader >>= next) (next answer) := by
  cases decides with
  | reads reads => exact .of_reads reads

theorem Decides.weaken {outcome : Except Cause α} (decides : Decides front bytes reader outcome)
    (implies : ∀ rest, follow rest → front rest) : Decides follow bytes reader outcome := by
  cases decides with
  | reads reads => exact .reads fun rest follows => reads rest (implies rest follows)
  | refuses refuses => exact .refuses fun rest follows => refuses rest (implies rest follows)

/-- Behind bytes that are decided, what follows is decided without any. -/
theorem Decides.bind_last {outcome : Except Cause α} {after : α → Except Cause β}
    (first : Decides follow bytes reader outcome)
    (second : ∀ answer, Decides follow [] (next answer) (after answer)) :
    Decides follow bytes (reader >>= next) (outcome >>= after) := by
  have whole : Decides follow (bytes ++ []) (reader >>= next) (outcome >>= after) := by
    cases outcome with
    | ok answer => exact (second answer).of_becomes first.becomes fun _ => id
    | error cause => exact first.bind_error fun _ => id
  rwa [List.append_nil] at whole

/-- Bytes decide one outcome only. -/
theorem Decides.unique {outcome otherOutcome : Except Cause α} {rest : List UInt8}
    (decides : Decides follow bytes reader outcome)
    (again : Decides follow bytes reader otherOutcome)
    (follows : follow rest) : outcome = otherOutcome := by
  let input : Input := .ofBytes .text (bytes ++ rest)
  cases decides with
  | reads reads =>
    obtain ⟨_, ran, _⟩ := reads rest follows input rfl
    cases again with
    | reads reads =>
      obtain ⟨_, same, _⟩ := reads rest follows input rfl
      cases ran.symm.trans same
      rfl
    | refuses refuses =>
      obtain ⟨_, _, same⟩ := refuses rest follows input rfl
      cases ran.symm.trans same
  | refuses refuses =>
    obtain ⟨_, _, ran⟩ := refuses rest follows input rfl
    cases again with
    | reads reads =>
      obtain ⟨_, same, _⟩ := reads rest follows input rfl
      cases ran.symm.trans same
    | refuses refuses =>
      obtain ⟨_, _, same⟩ := refuses rest follows input rfl
      cases ran.symm.trans same
      rfl

theorem decides_pure (answer : α) : Decides follow [] (pure answer : Reader α) (.ok answer) :=
  .reads fun _ _ => .pure answer

theorem settled_pure (answer : α) : Settled follow [] (pure answer : Reader α) :=
  ⟨.ok answer, decides_pure answer⟩

theorem settled_fail (cause : Cause) : Settled follow bytes (fail cause : Reader α) :=
  ⟨.error cause, .refuses fun _ _ => refuses_fail⟩

theorem settled_failAhead (cause : Cause) : Settled follow bytes (failAhead cause : Reader α) :=
  ⟨.error cause, .refuses fun _ _ => refuses_failAhead⟩

theorem Settled.weaken (settled : Settled front bytes reader)
    (implies : ∀ rest, follow rest → front rest) : Settled follow bytes reader := by
  obtain ⟨outcome, decides⟩ := settled
  exact ⟨outcome, decides.weaken implies⟩

theorem Settled.of_becomes (settled : Settled follow others other)
    (becomes : Becomes front bytes reader other)
    (meets : ∀ rest, follow rest → front (others ++ rest)) :
    Settled follow (bytes ++ others) reader := by
  obtain ⟨outcome, decides⟩ := settled
  exact ⟨outcome, decides.of_becomes becomes meets⟩

/-- Bytes that are read, and bytes behind them that settle what follows. -/
theorem Settled.after {answer : α} (settled : Settled follow others (next answer))
    (reads : ∀ rest, front rest → Reads (· = bytes ++ rest) reader answer (· = rest))
    (meets : ∀ rest, follow rest → front (others ++ rest)) :
    Settled follow (bytes ++ others) (reader >>= next) :=
  settled.of_becomes (.of_reads reads) meets

/-- Bytes that are read whatever follows them, and bytes behind them that settle what follows. -/
theorem Settled.behind {answer : α}
    (reads : ∀ rest, Reads (· = bytes ++ rest) reader answer (· = rest))
    (settled : Settled follow others (next answer)) :
    Settled follow (bytes ++ others) (reader >>= next) :=
  settled.after (fun rest (_ : Anything rest) => reads rest) fun _ _ => trivial

/-- One byte that is skipped, and bytes behind it that settle what follows. -/
theorem Settled.behind_skip {byte : UInt8} {next : Unit → Reader β}
    (settled : Settled follow others (next ())) :
    Settled follow (byte :: others) (skip >>= next) := by
  have reads (rest : List UInt8) : Reads (· = [byte] ++ rest) skip () (· = rest) := reads_skip
  exact .behind reads settled

/-- Behind the last bytes, what follows is settled without any. -/
theorem Settled.after_last {answer : α} (settled : Settled follow [] (next answer))
    (reads : ∀ rest, follow rest → Reads (· = bytes ++ rest) reader answer (· = rest)) :
    Settled follow bytes (reader >>= next) := by
  have whole := settled.after reads fun _ => id
  rwa [List.append_nil] at whole

/-- A step that only looks at the bytes to come leaves it to them to settle what follows. -/
theorem Settled.of_looked {answer : α} (settled : Settled follow bytes (next answer))
    (looks : ∀ rest, follow rest → Reads (· = bytes ++ rest) reader answer (· = bytes ++ rest)) :
    Settled follow bytes (reader >>= next) := by
  have becomes : Becomes (Before bytes follow) [] (reader >>= next) (next answer) := by
    refine .of_reads ?_
    rintro _ ⟨rest, follows, rfl⟩
    exact looks rest follows
  exact settled.of_becomes becomes fun rest follows => ⟨rest, follows, rfl⟩

theorem Settled.bind (first : Settled front bytes reader)
    (second : ∀ answer, Settled follow others (next answer))
    (meets : ∀ rest, follow rest → front (others ++ rest)) :
    Settled follow (bytes ++ others) (reader >>= next) := by
  obtain ⟨outcome, decides⟩ := first
  cases outcome with
  | ok answer => exact (second answer).of_becomes decides.becomes meets
  | error cause => exact ⟨_, decides.bind_error meets⟩

/-- Behind settled bytes, what follows is settled without any. -/
theorem Settled.bind_last (first : Settled follow bytes reader)
    (second : ∀ answer, Settled follow [] (next answer)) :
    Settled follow bytes (reader >>= next) := by
  have whole := first.bind second fun _ => id
  rwa [List.append_nil] at whole

end Rules

end Scl.Json.Reader

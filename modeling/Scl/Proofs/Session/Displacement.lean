import Scl.Proofs.Concatenation
import Scl.Proofs.Session.Correspondence
import Scl.Proofs.Session.History

/-! # Reading on depends on the tokens to come

A session in the middle of its tokens is compared with one that was just started on the tokens to
come. What stands before the cursor is not read again, it is only counted: the two answer alike,
and the cursor, the errors and the new warnings of the first are those of the second with their
positions moved by that count. The program is left out, since it is read from the first token.
-/

namespace Scl.Session

/-- `session` has the tokens to come and the oracle of `other`, its cursor stands `count` places
further on, and its warnings are some earlier ones and then those of `other`, moved as far. -/
structure Displaced (count : Nat) (earlier : List Warning) (session other : Session) : Prop where
  rest : session.rest = other.rest
  oracle : session.oracle = other.oracle
  position : session.position = other.position + count
  warnings : session.warnings = earlier ++ other.warnings.map (Warning.shift count)

namespace Displaced

variable {count : Nat} {earlier : List Warning} {session other : Session}

theorem note (displaced : Displaced count earlier session other) (event otherEvent : Event) :
    Displaced count earlier (session.note event) (other.note otherEvent) :=
  ⟨displaced.rest, displaced.oracle, displaced.position, displaced.warnings⟩

theorem pass (displaced : Displaced count earlier session other) (token : Token)
    (rest : List Token) :
    Displaced count earlier (session.pass token rest) (other.pass token rest) := by
  refine ⟨rfl, displaced.oracle, ?_, displaced.warnings⟩
  rw [position_pass, position_pass, displaced.position, Nat.add_right_comm]

theorem enter (displaced : Displaced count earlier session other) (first : Token)
    (rest : List Token) :
    Displaced count earlier (session.enter first rest) (other.enter first rest) :=
  (displaced.note _ _).pass first rest

/-- The oracle is asked for the same name, so both sessions warn or neither does. -/
theorem check (displaced : Displaced count earlier session other) (warning : Warning) :
    Displaced count earlier (session.check (warning.shift count)) (other.check warning) := by
  unfold Session.check
  rw [displaced.oracle]
  by_cases unknown : other.oracle.any (fun declared => !declared warning.name) = true
  · have moved : other.oracle.any (fun declared => !declared (warning.shift count).name) = true :=
      unknown
    rw [if_pos unknown, if_pos moved]
    refine ⟨displaced.rest, displaced.oracle, displaced.position, ?_⟩
    rw [warnings_warn, warnings_warn, displaced.warnings, List.map_append, List.append_assoc]
    rfl
  · have moved : ¬ other.oracle.any (fun declared => !declared (warning.shift count).name) = true :=
      unknown
    rw [if_neg unknown, if_neg moved]
    exact displaced

theorem take (displaced : Displaced count earlier session other) (slot : Slot) :
    Displaced count earlier (session.take slot) (other.take slot) := by
  unfold Session.take
  rw [displaced.rest]
  cases other.rest with
  | nil => exact displaced
  | cons token rest =>
    have passed := displaced.pass token rest
    by_cases declared : slot.shape = .declared
    · simp only [declared, if_true]
      have checked := passed.check { position := other.position, name := token.value }
      rwa [Warning.shift, ← displaced.position] at checked
    · simp only [declared, if_false]
      exact passed

theorem failure (displaced : Displaced count earlier session other) (expected : String) :
    session.failure expected = (other.failure expected).shift count := by
  rw [Session.failure, Session.failure, ParseError.shift, displaced.position, peek, peek,
    displaced.rest]

theorem consulting (displaced : Displaced count earlier session other) (oracle : Option Oracle) :
    Displaced count earlier (session.consulting oracle) (other.consulting oracle) :=
  ⟨displaced.rest, rfl, displaced.position, displaced.warnings⟩

end Displaced

/-- Displaced sessions read on in the same way and fail with displaced errors. -/
def displaced (count : Nat) (earlier : List Warning) : Correspondence where
  Related := Displaced count earlier
  Errors error other := error = other.shift count
  rest_eq := Displaced.rest
  pass token rest displaced := displaced.pass token rest
  take slot displaced := displaced.take slot
  enter first rest displaced := displaced.enter first rest
  failure expected displaced := displaced.failure expected

/-- The answer when that many tokens more stand before the cursor and `earlier` was found there. -/
def Answer.displace (count : Nat) (earlier : List Warning) : Answer → Answer
  | .failed error => .failed (error.shift count)
  | .warnings found => .warnings (earlier ++ found.map (Warning.shift count))
  | answer => answer

/-- What an operation shows: its answer, and then the cursor and the warnings. -/
structure Observation where
  answer : Answer
  position : Nat
  warnings : List Warning
  deriving DecidableEq

def observe (performed : Answer × Session) : Observation :=
  ⟨performed.1, performed.2.position, performed.2.warnings⟩

/-- The observation when that many tokens more stand before the cursor and `earlier` was found
there. -/
def Observation.displace (count : Nat) (earlier : List Warning) (observed : Observation) :
    Observation :=
  { answer := observed.answer.displace count earlier
    position := observed.position + count
    warnings := earlier ++ observed.warnings.map (Warning.shift count) }

section Run

variable {count : Nat} {earlier : List Warning} {session other : Session}

/-- An operation that reads on never answers with a list of warnings, so of its answers only errors
are displaced. -/
theorem answer_ne_warnings {operation : Operation} (reads : Correspondence.ReadsOn operation)
    (found : List Warning) : (session.step operation).1 ≠ .warnings found := by
  have performs {α : Type} {action : Parsing α} {answer : α → Answer}
      (answers : ∀ value, answer value ≠ .warnings found) :
      (session.perform action answer).1 ≠ .warnings found := by
    unfold perform
    split
    · exact answers _
    · intro same
      cases same
  intro same
  cases operation with
  | isAtEnd | peek | nextIs | placeholder => cases same
  | advance | matchWord | expectKind | expectWord | expectWords | expectAny | statement =>
    refine performs (fun value other => ?_) same
    cases other
  | dispatch word =>
    simp only [step] at same
    split at same
    · cases same
    · refine performs (fun value other => ?_) same
      cases other
  | program | warnings | consult => exact reads.elim

/-- The errors of an operation that fails on both sides are related: they are those of slots at the
two cursors, with the same sentence. -/
theorem Correspondence.errors_step (link : Correspondence) {operation : Operation}
    (reads : ReadsOn operation) (related : link.Related session other)
    {error otherError : ParseError}
    (failed : (session.step operation).1 = .failed error)
    (otherFailed : (other.step operation).1 = .failed otherError) :
    link.Errors error otherError := by
  obtain ⟨answers, after⟩ := link.step reads related
  obtain ⟨expected, told⟩ := (stepped session operation).failure error failed
  obtain ⟨otherExpected, otherTold⟩ := (stepped other operation).failure otherError otherFailed
  rw [failed, otherFailed] at answers
  cases answers with
  | failed errors => exact errors
  | same =>
    have sentence : expected = otherExpected :=
      congrArg ParseError.expected (told.symm.trans otherTold)
    have errors := link.failure expected after
    rwa [← told, sentence, ← otherTold] at errors

theorem answer_step_displaced {operation : Operation} (reads : Correspondence.ReadsOn operation)
    (related : Displaced count earlier session other) :
    (session.step operation).1 = (other.step operation).1.displace count earlier := by
  have errors {error otherError : ParseError}
      (failed : (session.step operation).1 = .failed error)
      (otherFailed : (other.step operation).1 = .failed otherError) :
      error = otherError.shift count :=
    (displaced count earlier).errors_step reads related failed otherFailed
  have plain (found : List Warning) : (other.step operation).1 ≠ .warnings found :=
    answer_ne_warnings reads found
  obtain ⟨answers, _⟩ := (displaced count earlier).step reads related
  generalize (session.step operation).1 = answer at answers errors
  generalize (other.step operation).1 = otherAnswer at answers errors plain
  cases answers with
  | failed moved => exact congrArg Answer.failed moved
  | same =>
    cases answer with
    | failed error => exact congrArg Answer.failed (errors rfl rfl)
    | warnings found => exact (plain found rfl).elim
    | flag | token | tree | done | absent => rfl

/-- One operation keeps sessions displaced and shows the same, displaced. -/
theorem step_displaced {operation : Operation} (continues : operation ≠ .program)
    (related : Displaced count earlier session other) :
    observe (session.step operation) = (observe (other.step operation)).displace count earlier ∧
      Displaced count earlier (session.step operation).2 (other.step operation).2 := by
  have shows (answer : (session.step operation).1 = (other.step operation).1.displace count earlier)
      (after : Displaced count earlier (session.step operation).2 (other.step operation).2) :
      observe (session.step operation) =
        (observe (other.step operation)).displace count earlier := by
    rw [observe, answer, after.position, after.warnings]
    rfl
  have reading (reads : Correspondence.ReadsOn operation) :
      observe (session.step operation) = (observe (other.step operation)).displace count earlier ∧
        Displaced count earlier (session.step operation).2 (other.step operation).2 := by
    obtain ⟨_, after⟩ := (displaced count earlier).step reads related
    exact ⟨shows (answer_step_displaced reads related) after, after⟩
  cases operation with
  | program => exact (continues rfl).elim
  | warnings => exact ⟨shows (congrArg Answer.warnings related.warnings) related, related⟩
  | consult oracle => exact ⟨shows rfl (related.consulting oracle), related.consulting oracle⟩
  | _ => exact reading trivial

theorem run_displaced_of_related (operations : List Operation) (onward : .program ∉ operations)
    (related : Displaced count earlier session other) :
    (session.run operations).map observe =
      (other.run operations).map fun performed => (observe performed).displace count earlier := by
  induction operations generalizing session other with
  | nil => rfl
  | cons operation operations ih =>
    obtain ⟨head, rest⟩ := not_or.mp (mt List.mem_cons.mpr onward)
    obtain ⟨shown, after⟩ := step_displaced (Ne.symm head) related
    rw [run_cons, run_cons, List.map_cons, List.map_cons, shown, ih rest after]

/-- A session reads on like one that was just started on its tokens to come. -/
theorem displaced_start (session : Session) :
    Displaced session.position session.warnings session (start session.rest session.oracle) where
  rest := rfl
  oracle := rfl
  position := (Nat.zero_add _).symm
  warnings := (List.append_nil _).symm

/-- The cursor is advanced over one token after the other, and nothing else changes. -/
theorem after_replicate_advance (session : Session) (count : Nat)
    (inside : count ≤ session.rest.length) :
    let advanced := session.after (List.replicate count .advance)
    advanced.position = session.position + count ∧ advanced.oracle = session.oracle ∧
      advanced.warnings = session.warnings := by
  induction count generalizing session with
  | zero => exact ⟨rfl, rfl, rfl⟩
  | succ count ih =>
    cases here : session.rest with
    | nil =>
      rw [here] at inside
      exact (Nat.not_succ_le_zero count inside).elim
    | cons token rest =>
      have unrolled : session.after (List.replicate (count + 1) .advance) =
          (session.pass token rest).after (List.replicate count .advance) := by
        rw [List.replicate_succ, after, List.foldl_cons]
        simp only [step, perform, Parsing.advance, here]
        rfl
      rw [here, List.length_cons] at inside
      obtain ⟨position, oracle, warnings⟩ :=
        ih (session.pass token rest) (Nat.le_of_succ_le_succ inside)
      rw [unrolled]
      refine ⟨?_, oracle, warnings⟩
      rw [position, position_pass, Nat.add_assoc, Nat.add_comm 1]

end Run

/-- Whatever was asked of a session before, further operations show what they show in a session that
was just started on the tokens to come, with all positions moved by the number of tokens passed and
behind the warnings found before. A cursor that was only advanced stands behind as many tokens and
has no warnings, so then nothing but the positions differs. -/
theorem run_displaced (tokens : List Token) (oracle : Option Oracle) (operations : List Operation)
    (onward : .program ∉ operations) :
    (∀ history,
      let session := (start tokens oracle).after history
      (session.run operations).map observe =
        ((start (tokens.drop session.position) session.oracle).run operations).map
          fun performed => (observe performed).displace session.position session.warnings) ∧
    ∀ count ≤ tokens.length,
      let advanced := (start tokens oracle).after (List.replicate count .advance)
      advanced.position = count ∧
        (advanced.run operations).map observe =
          ((start (tokens.drop count) oracle).run operations).map
            fun performed => (observe performed).displace count [] := by
  have moved (history : List Operation) :
      let session := (start tokens oracle).after history
      (session.run operations).map observe =
        ((start (tokens.drop session.position) session.oracle).run operations).map
          fun performed => (observe performed).displace session.position session.warnings := by
    intro session
    have kept : session.tokens = tokens := tokens_after (start tokens oracle) history
    rw [← kept, ← rest_eq_drop]
    exact run_displaced_of_related operations onward (displaced_start session)
  refine ⟨moved, fun count inside => ?_⟩
  have advanced := moved (List.replicate count .advance)
  dsimp only at advanced
  obtain ⟨position, same, warnings⟩ := after_replicate_advance (start tokens oracle) count inside
  rw [position_start, Nat.zero_add] at position
  refine ⟨position, ?_⟩
  rw [position, same, warnings] at advanced
  exact advanced

/-- A name that is not declared and a slot that is not filled, behind a token or without it. -/
theorem run_displaced_display :
    let tokens : List Token := [⟨.keyword, "exit"⟩, ⟨.identifier, "x"⟩, ⟨.number, "5"⟩]
    let oracle : Option Oracle := some (.constant false)
    let operations : List Operation := [.statement .display, .warnings, .expectWord "=" "no"]
    let advanced := (start tokens oracle).after [.advance]
    .program ∉ operations ∧ 1 ≤ tokens.length ∧ advanced.position = 1 ∧
      ((start (tokens.drop 1) oracle).run operations).map observe =
        [⟨.tree (Rule.node .display ["x"]), 1, [⟨0, "x"⟩]⟩, ⟨.warnings [⟨0, "x"⟩], 1, [⟨0, "x"⟩]⟩,
          ⟨.failed ⟨1, some "5", "no"⟩, 1, [⟨0, "x"⟩]⟩] ∧
      (advanced.run operations).map observe =
        [⟨.tree (Rule.node .display ["x"]), 2, [⟨1, "x"⟩]⟩, ⟨.warnings [⟨1, "x"⟩], 2, [⟨1, "x"⟩]⟩,
          ⟨.failed ⟨2, some "5", "no"⟩, 2, [⟨1, "x"⟩]⟩] := by
  intro tokens oracle operations advanced
  have onward : .program ∉ operations := by simp [operations]
  have inside : 1 ≤ tokens.length := by decide
  obtain ⟨_, counted⟩ := run_displaced tokens oracle operations onward
  obtain ⟨position, shown⟩ := counted 1 inside
  exact ⟨onward, inside, position, rfl, shown⟩

end Scl.Session

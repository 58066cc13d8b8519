import Scl.Proofs.Session.History

/-! # What every step of a run keeps

The cursor stays inside the tokens and moves back for the program alone, warnings are added one at
a time behind those found before, and an error tells the cursor and the token there. This holds of
every step of every history, also behind operations that failed. An operation on a single token
that refuses it leaves the session alone; a statement that fails half-way is not of this kind, it
keeps what it took.
-/

namespace Scl

namespace Parsing

variable {session after : Session} {error : ParseError}

theorem expect_error {admits : Token → Bool} {expected : String}
    (failed : expect admits expected session = .error error after) : after = session := by
  unfold expect at failed
  split at failed
  · cases failed
    rfl
  · split at failed
    · cases failed
    · cases failed
      rfl

theorem matchWord_false {word : String} (missed : matchWord word session = .ok false after) :
    after = session := by
  unfold matchWord at missed
  split at missed
  · cases missed
    rfl
  · split at missed
    · cases missed
    · cases missed
      rfl

/-- The only slot of `display` is the first one, so nothing was passed when it is not filled. -/
theorem statement_display_error (failed : statement .display session = .error error after) :
    after = session := by
  rcases Slot.filled_or_unmet (Rule.slots .display) session.rest with
    ⟨taken, rest, here, filled⟩ | ⟨before, slot, others, taken, rest, slots, here, filled, unmet⟩
  · rw [statement, bind_of_ok (fillAll_of_filled filled here)] at failed
    cases failed
  · have first : before = [] := by
      have lengths := congrArg List.length slots
      simp only [Rule.slots, List.length_append, List.length_cons, List.length_nil] at lengths
      apply List.eq_nil_of_length_eq_zero
      omega
    subst first
    rw [statement, slots, bind_of_error (fillAll_of_unmet filled here unmet)] at failed
    cases failed
    rfl

end Parsing

namespace Session

/-- An operation on a single token found that the next token is not the one asked for. -/
def Operation.refused (operation : Operation) (answer : Answer) : Prop :=
  match operation with
  | .expectKind .. | .expectWord .. | .expectAny _ => ∃ error, answer = .failed error
  | .matchWord _ => answer = .flag false
  | _ => False

/-- What is kept by a step from `session` to `after`, among these tokens. -/
structure Invariant (tokens : List Token) (session : Session) (operation : Operation)
    (answer : Answer) (after : Session) : Prop where
  /-- The cursor is inside the tokens. -/
  inside : after.position ≤ tokens.length
  /-- Only the program moves the cursor back. -/
  forward : operation ≠ .program → session.position ≤ after.position
  /-- At most one warning is added, at the end, and only by reading what follows `display`. -/
  grows : operation ≠ .program → ∃ added, after.warnings = session.warnings ++ added ∧
    added.length ≤ 1 ∧ (added ≠ [] → operation.displays = true ∧ ∃ tree, answer = .tree tree)
  /-- An error has the position of the cursor and quotes the next token, if there is one. -/
  reported : ∀ error, answer = .failed error → error.position = after.position ∧
    (error.found = none ↔ after.position = tokens.length) ∧
    error.found = after.peek.map (·.value)
  /-- A token that is refused changes nothing. -/
  untouched : operation.refused answer → after = session

/-- There is no next token exactly when the cursor is behind the last one. -/
theorem peek_eq_none_iff {session : Session} :
    session.peek = none ↔ session.position = session.tokens.length := by
  have total : session.tokens.length = session.position + session.rest.length := by
    rw [tokens, List.length_append, List.length_reverse, session.position_eq]
  rw [peek, List.head?_eq_none_iff, ← List.length_eq_zero_iff]
  omega

section Step

variable {session : Session} {operation : Operation} {α : Type} {action : Parsing α}
  {answer : α → Answer}

theorem perform_ok {given : Answer} (answered : (session.perform action answer).1 = given)
    (succeeded : ∀ error, given ≠ .failed error) :
    ∃ value, answer value = given ∧
      action session = .ok value (session.perform action answer).2 := by
  unfold perform at answered ⊢
  generalize action session = result at answered ⊢
  cases result with
  | ok value after => exact ⟨value, answered, rfl⟩
  | error error after => exact (succeeded error answered.symm).elim

theorem perform_error {error : ParseError}
    (failed : (session.perform action answer).1 = .failed error)
    (answers : ∀ value error, answer value ≠ .failed error) :
    action session = .error error (session.perform action answer).2 := by
  unfold perform at failed ⊢
  generalize action session = result at failed ⊢
  cases result with
  | ok value after => exact (answers value error failed).elim
  | error other after =>
    cases failed
    rfl

theorem step_refused (refused : operation.refused (session.step operation).1) :
    (session.step operation).2 = session := by
  cases operation with
  | expectKind | expectWord | expectAny =>
    obtain ⟨error, failed⟩ := refused
    exact Parsing.expect_error (perform_error failed nofun)
  | matchWord word =>
    obtain ⟨found, flagged, missed⟩ := perform_ok refused nofun
    cases flagged
    exact Parsing.matchWord_false missed
  | _ => exact refused.elim

/-- Reading what follows `display` gives a tree or leaves the session as it was. -/
theorem step_displays (session : Session) (displays : operation.displays = true) :
    (∃ tree, (session.step operation).1 = .tree tree) ∨ (session.step operation).2 = session := by
  have reads : session.step operation = session.perform (Parsing.statement .display) .tree := by
    have handler : operation.handler? = some (.rule .display) := beq_iff_eq.mp displays
    cases operation with
    | statement rule =>
      cases handler
      rfl
    | dispatch word =>
      change Handler.lookup word = _ at handler
      simp only [step, handler]
      rfl
    | _ => cases handler
  rw [reads]
  unfold perform
  generalize ran : Parsing.statement .display session = result
  cases result with
  | ok tree after => exact .inl ⟨tree, rfl⟩
  | error error after => exact .inr (Parsing.statement_display_error ran)

theorem position_origin (other : operation ≠ .program) :
    (operation.origin session).position = session.position := by
  cases operation with
  | program => exact (other rfl).elim
  | _ => rfl

theorem warnings_origin (other : operation ≠ .program) :
    (operation.origin session).warnings = session.warnings := by
  cases operation with
  | program => exact (other rfl).elim
  | _ => rfl

/-- Warnings are added by the operations that read what follows `display`, one at most. -/
theorem warnings_step (other : operation ≠ .program) :
    ∃ added, (session.step operation).2.warnings = session.warnings ++ added ∧
      added.length ≤ 1 ∧
      (added ≠ [] →
        operation.displays = true ∧ ∃ tree, (session.step operation).1 = .tree tree) := by
  obtain ⟨most, onward, few⟩ := (stepped session operation).onward
  obtain ⟨added, found, bound⟩ := (onward.weaken (few other)).warnings
  rw [warnings_origin other] at found
  have one := Bool.toNat_le operation.displays
  refine ⟨added, found, Nat.le_trans bound one, ?_⟩
  intro some
  cases displays : operation.displays with
  | false =>
    rw [displays] at bound
    exact (some (List.eq_nil_of_length_eq_zero (Nat.le_zero.mp bound))).elim
  | true =>
    refine ⟨rfl, ?_⟩
    rcases step_displays session displays with answered | same
    · exact answered
    · rw [same] at found
      exact (some (List.self_eq_append_right.mp found)).elim

/-- One step keeps the invariant, from whatever session it is taken. -/
theorem invariant_step (session : Session) (operation : Operation) :
    Invariant session.tokens session operation (session.step operation).1
      (session.step operation).2 := by
  have did := stepped session operation
  obtain ⟨most, onward, _⟩ := did.onward
  have tokens := tokens_step session operation
  refine ⟨?_, ?_, warnings_step, ?_, step_refused⟩
  · rw [← tokens]
    exact position_le _
  · intro other
    rw [← position_origin other]
    exact onward.position
  · intro error failed
    obtain ⟨expected, rfl⟩ := did.failure error failed
    refine ⟨rfl, ?_, rfl⟩
    rw [← tokens, ← peek_eq_none_iff]
    exact Option.map_eq_none_iff

end Step

/-- Every operation of a run over some tokens, whatever was done before it and whatever follows,
keeps the invariant. -/
theorem run_invariant (tokens : List Token) (oracle : Option Oracle)
    (earlier later : List Operation) (operation : Operation) :
    let session := (start tokens oracle).after earlier
    ∃ answer after,
      (start tokens oracle).run (earlier ++ operation :: later) =
        (start tokens oracle).run earlier ++ (answer, after) :: after.run later ∧
      Invariant tokens session operation answer after := by
  intro session
  have kept : session.tokens = tokens := tokens_after (start tokens oracle) earlier
  refine ⟨(session.step operation).1, (session.step operation).2, ?_, ?_⟩
  · rw [run_append, run_cons]
  · rw [← kept]
    exact invariant_step session operation

end Session

end Scl

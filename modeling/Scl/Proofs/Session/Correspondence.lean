import Scl.Proofs.Reading
import Scl.Session.Operation

/-! # Two readings side by side

A correspondence relates two sessions that have the same tokens to come, in such a way that taking
the same token on both sides keeps them related. Every action then ends in the same way on both
sides: with the same answer, or with errors that the correspondence relates, and in sessions that
it relates. What else the two sessions differ in, and how their errors differ, is left to the
correspondence. Operations that read on from the cursor are covered here, and reading the program
if starting again is no matter to the correspondence; asking for warnings and changing the oracle
are not.
-/

namespace Scl

/-- Sessions that read the same tokens, with a relation on them that reading keeps. -/
structure Session.Correspondence where
  Related : Session → Session → Prop
  Errors : ParseError → ParseError → Prop
  rest_eq {session other : Session} : Related session other → session.rest = other.rest
  pass {session other : Session} (token : Token) (rest : List Token) :
    Related session other → Related (session.pass token rest) (other.pass token rest)
  take {session other : Session} (slot : Slot) :
    Related session other → Related (session.take slot) (other.take slot)
  enter {session other : Session} (first : Token) (rest : List Token) :
    Related session other → Related (session.enter first rest) (other.enter first rest)
  failure {session other : Session} (expected : String) :
    Related session other → Errors (session.failure expected) (other.failure expected)

namespace Session.Correspondence

/-- Two actions end in the same way. -/
inductive Outcome (link : Correspondence) {α : Type} :
    EStateM.Result ParseError Session α → EStateM.Result ParseError Session α → Prop where
  | ok {answer : α} {after otherAfter : Session} (related : link.Related after otherAfter) :
    Outcome link (.ok answer after) (.ok answer otherAfter)
  | error {error otherError : ParseError} {after otherAfter : Session}
      (errors : link.Errors error otherError) (related : link.Related after otherAfter) :
    Outcome link (.error error after) (.error otherError otherAfter)

/-- An action that ends in the same way on related sessions. -/
def Respects (link : Correspondence) {α : Type} (action : Parsing α) : Prop :=
  ∀ session other, link.Related session other → link.Outcome (action session) (action other)

variable (link : Correspondence)

section Actions

open Parsing

theorem respects_pure {α : Type} (answer : α) : link.Respects (pure answer : Parsing α) :=
  fun _ _ related => .ok related

variable {link} in
theorem respects_bind {α β : Type} {action : Parsing α} {next : α → Parsing β}
    (first : link.Respects action) (second : ∀ answer, link.Respects (next answer)) :
    link.Respects (action >>= next) := by
  intro session other related
  have ran := first session other related
  simp only [bind, EStateM.bind]
  generalize action session = result at ran
  generalize action other = otherResult at ran
  cases ran with
  | ok related => exact second _ _ _ related
  | error errors related => exact .error errors related

theorem respects_advance : link.Respects advance := by
  intro session other related
  unfold advance
  rw [← link.rest_eq related]
  cases session.rest with
  | nil => exact .ok related
  | cons token rest => exact .ok (link.pass token rest related)

theorem respects_expect (admits : Token → Bool) (expected : String) :
    link.Respects (expect admits expected) := by
  intro session other related
  unfold expect
  rw [← link.rest_eq related]
  cases session.rest with
  | nil => exact .error (link.failure expected related) related
  | cons token rest =>
    cases admitted : admits token with
    | true =>
      simp only [admitted, if_true]
      exact .ok (link.pass token rest related)
    | false =>
      simp only [admitted, Bool.false_eq_true, if_false]
      exact .error (link.failure expected related) related

theorem respects_expectWords (words : List String) : link.Respects (expectWords words) := by
  induction words with
  | nil => exact link.respects_pure ()
  | cons word words ih => exact respects_bind (link.respects_expect _ _) fun _ => ih

theorem respects_matchWord (word : String) : link.Respects (matchWord word) := by
  intro session other related
  unfold matchWord
  rw [← link.rest_eq related]
  cases session.rest with
  | nil => exact .ok related
  | cons token rest =>
    cases spelled : Text.sameWord token.value word with
    | true =>
      simp only [spelled, if_true]
      exact .ok (link.pass token rest related)
    | false =>
      simp only [spelled, Bool.false_eq_true, if_false]
      exact .ok related

/-- The warning of a slot is part of the session after it, so it does not matter here. -/
theorem respects_fill (slot : Slot) : link.Respects (fill slot) := by
  intro session other related
  have same := link.rest_eq related
  by_cases fits : ∃ token rest, session.rest = token :: rest ∧ slot.shape.admits token = true
  · obtain ⟨token, rest, next, admitted⟩ := fits
    rw [fill_of_admits next admitted, fill_of_admits (same ▸ next) admitted]
    exact .ok (link.take slot related)
  · have unmet : ∀ token ∈ session.rest.head?, slot.shape.admits token = false := by
      intro token next
      obtain ⟨rest, split⟩ := List.head?_eq_some_iff.mp next
      exact Bool.eq_false_iff.mpr fun admitted => fits ⟨token, rest, split, admitted⟩
    rw [fill_of_unmet unmet, fill_of_unmet (same ▸ unmet)]
    exact .error (link.failure _ related) related

theorem respects_fillAll (slots : List Slot) : link.Respects (fillAll slots) := by
  induction slots with
  | nil => exact link.respects_pure []
  | cons slot slots ih =>
    exact respects_bind (link.respects_fill slot) fun _ =>
      respects_bind ih fun _ => link.respects_pure _

theorem respects_statement (rule : Rule) : link.Respects (statement rule) :=
  respects_bind (link.respects_fillAll _) fun _ => link.respects_pure _

theorem respects_handle (word : String) (handler : Option Handler) :
    link.Respects (handle word handler) := by
  rw [handle_eq]
  exact respects_bind (link.respects_fillAll _) fun _ => link.respects_pure _

/-- Statement after statement, by induction on the tokens to come. -/
theorem respects_statements : link.Respects statements := by
  intro session other related
  induction length : session.rest.length using Nat.strongRecOn generalizing session other with
  | ind count ih =>
    have same := link.rest_eq related
    cases here : session.rest with
    | nil =>
      rw [statements_nil here, statements_nil (same ▸ here)]
      exact .ok related
    | cons first rest =>
      rw [statements_cons here, statements_cons (same ▸ here)]
      have inside := link.enter first rest related
      have read := link.respects_handle first.value (Handler.lookup first.value) _ _ inside
      simp only [bind, EStateM.bind]
      generalize ran : handle first.value _ (session.enter first rest) = result at read
      generalize handle first.value _ (other.enter first rest) = otherResult at read
      cases read with
      | error errors related => exact .error errors related
      | @ok tree after otherAfter related =>
        have shorter : after.rest.length < count := by
          have forward := forward_handle _ _ _ _ _ ran
          simp only [Session.enter, rest_pass] at forward
          rw [here, List.length_cons] at length
          omega
        have later := ih _ shorter after otherAfter related rfl
        simp only
        generalize statements after = rest at later
        generalize statements otherAfter = otherRest at later
        cases later with
        | ok related => exact .ok related
        | error errors related => exact .error errors related

/-- A whole program is read from the first token, so starting again has to keep the sessions
related. -/
theorem respects_program
    (restart : ∀ session other, link.Related session other →
      link.Related session.restart other.restart) :
    link.Respects program := by
  intro session other related
  have read := link.respects_statements _ _ (restart session other related)
  unfold program
  generalize statements session.restart = result at read
  generalize statements other.restart = otherResult at read
  cases read with
  | ok related => exact .ok related
  | error errors related => exact .error errors related

end Actions

/-- The same answers, up to the related errors of operations that fail. -/
inductive Answers : Answer → Answer → Prop where
  | same (answer : Answer) : Answers answer answer
  | failed {error otherError : ParseError} (errors : link.Errors error otherError) :
    Answers (.failed error) (.failed otherError)

/-- An operation that reads on from the cursor, or looks at the token there. -/
def ReadsOn : Operation → Prop
  | .program | .warnings | .consult _ => False
  | _ => True

variable {session other : Session}

theorem perform {α : Type} {action : Parsing α} (respects : link.Respects action)
    (answer : α → Answer) (related : link.Related session other) :
    link.Answers (session.perform action answer).1 (other.perform action answer).1 ∧
      link.Related (session.perform action answer).2 (other.perform action answer).2 := by
  have ran := respects session other related
  unfold Session.perform
  generalize action session = result at ran
  generalize action other = otherResult at ran
  cases ran with
  | ok related => exact ⟨.same _, related⟩
  | error errors related => exact ⟨.failed errors, related⟩

/-- One operation keeps a correspondence. -/
theorem step {operation : Operation} (reads : ReadsOn operation)
    (related : link.Related session other) :
    link.Answers (session.step operation).1 (other.step operation).1 ∧
      link.Related (session.step operation).2 (other.step operation).2 := by
  have same := link.rest_eq related
  cases operation with
  | isAtEnd =>
    simp only [Session.step, isAtEnd, same]
    exact ⟨.same _, related⟩
  | peek =>
    simp only [Session.step, peek, same]
    exact ⟨.same _, related⟩
  | nextIs kind =>
    simp only [Session.step, nextIs, peek, same]
    exact ⟨.same _, related⟩
  | placeholder word => exact ⟨.same _, related⟩
  | advance => exact link.perform link.respects_advance _ related
  | matchWord word => exact link.perform (link.respects_matchWord word) _ related
  | expectKind kind expected => exact link.perform (link.respects_expect _ expected) _ related
  | expectWord word expected => exact link.perform (link.respects_expect _ expected) _ related
  | expectWords words => exact link.perform (link.respects_expectWords words) _ related
  | expectAny expected => exact link.perform (link.respects_expect _ expected) _ related
  | statement rule => exact link.perform (link.respects_statement rule) _ related
  | dispatch word =>
    simp only [Session.step]
    split
    · exact ⟨.same _, related⟩
    · exact link.perform (link.respects_handle word _) _ related
  | program => exact reads.elim
  | warnings => exact reads.elim
  | consult oracle => exact reads.elim

end Session.Correspondence

end Scl

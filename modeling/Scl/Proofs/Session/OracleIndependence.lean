import Scl.Proofs.Session.Correspondence

/-! # Oracles do not interfere

Two histories of sessions over the same tokens may use different oracles, or use them at different
times, or one of them none. As long as the operations are the same otherwise, they answer alike and
leave the cursor at the same places: an oracle decides which warnings are found, and nothing reads
these but the question for them. The warnings themselves are not compared.
-/

namespace Scl

namespace Session

/-- Two sessions with the cursor at the same place among the same tokens. -/
structure SamePlace (session other : Session) : Prop where
  passed : session.passed = other.passed
  rest : session.rest = other.rest

namespace SamePlace

variable {session other : Session}

theorem position_eq (same : SamePlace session other) : session.position = other.position := by
  rw [session.position_eq, other.position_eq, same.passed]

theorem consulting_left (same : SamePlace session other) (oracle : Option Oracle) :
    SamePlace (session.consulting oracle) other :=
  ⟨same.passed, same.rest⟩

theorem consulting (same : SamePlace session other) (oracle otherOracle : Option Oracle) :
    SamePlace (session.consulting oracle) (other.consulting otherOracle) :=
  ⟨same.passed, same.rest⟩

theorem start (tokens : List Token) (oracle otherOracle : Option Oracle) :
    SamePlace (.start tokens oracle) (.start tokens otherOracle) :=
  ⟨rfl, rfl⟩

theorem restart (same : SamePlace session other) : SamePlace session.restart other.restart := by
  have tokens : session.tokens = other.tokens := by
    rw [Session.tokens, Session.tokens, same.passed, same.rest]
  rw [Session.restart, Session.restart, tokens]
  exact start ..

theorem pass (same : SamePlace session other) (token : Token) (rest : List Token) :
    SamePlace (session.pass token rest) (other.pass token rest) :=
  ⟨congrArg (token :: ·) same.passed, rfl⟩

/-- The check of a name is where an oracle is asked. It leaves the cursor alone, whatever the answer
is. -/
theorem check_left (session : Session) (warning : Warning) :
    SamePlace (session.check warning) session := by
  unfold Session.check
  split
  · exact ⟨rfl, rfl⟩
  · exact ⟨rfl, rfl⟩

theorem check (same : SamePlace session other) (warning otherWarning : Warning) :
    SamePlace (session.check warning) (other.check otherWarning) := by
  have left := check_left session warning
  have right := check_left other otherWarning
  constructor
  · rw [left.passed, same.passed, right.passed]
  · rw [left.rest, same.rest, right.rest]

theorem take (same : SamePlace session other) (slot : Slot) :
    SamePlace (session.take slot) (other.take slot) := by
  unfold Session.take
  rw [← same.rest]
  cases session.rest with
  | nil => exact same
  | cons token rest =>
    have passed := same.pass token rest
    by_cases declared : slot.shape = .declared
    · simp only [declared, if_true]
      exact passed.check _ _
    · simp only [declared, if_false]
      exact passed

theorem failure (same : SamePlace session other) (expected : String) :
    session.failure expected = other.failure expected := by
  rw [Session.failure, Session.failure, same.position_eq, peek, peek, same.rest]

end SamePlace

/-- Sessions at the same place read on in the same way and fail with the same errors. -/
def samePlace : Correspondence where
  Related := SamePlace
  Errors := Eq
  rest_eq := SamePlace.rest
  pass token rest same := same.pass token rest
  take slot same := same.take slot
  enter first _ same := ⟨congrArg (first :: ·) same.passed, rfl⟩
  failure expected same := same.failure expected

theorem samePlace_answers {answer other : Answer} (answers : samePlace.Answers answer other) :
    answer = other := by
  cases answers with
  | same => rfl
  | failed errors => exact congrArg Answer.failed errors

/-- A program is read in the same way from sessions at the same place, since it is read from the
first token in both. -/
theorem respects_program : samePlace.Respects Parsing.program :=
  samePlace.respects_program fun _ _ same => same.restart

namespace Operation

/-- The operation, or no oracle in place of the oracle that it attaches. -/
def withoutOracle : Operation → Operation
  | .consult _ => .consult none
  | operation => operation

def consults : Operation → Bool
  | .consult _ => true
  | _ => false

end Operation

/-- The answer, with nothing in place of the warnings. -/
def Answer.withoutWarnings : Answer → Answer
  | .warnings _ => .warnings []
  | answer => answer

/-- What is seen of an operation: its answer, unless this tells the warnings, and the cursor. -/
def observed (performed : Answer × Session) : Answer × Nat :=
  (performed.1.withoutWarnings, performed.2.position)

/-- What is seen of the operations of a run that do not change the oracle. -/
def transcript (session : Session) (operations : List Operation) : List (Answer × Nat) :=
  ((operations.zip (session.run operations)).filter fun performed => !performed.1.consults).map
    fun performed => observed performed.2

section Run

variable {session other : Session}

/-- One operation is seen alike from sessions at the same place. -/
theorem step_samePlace (operation : Operation) (same : SamePlace session other) :
    observed (session.step operation) = observed (other.step operation) ∧
      SamePlace (session.step operation).2 (other.step operation).2 := by
  have seen {left right : Answer × Session} (answers : samePlace.Answers left.1 right.1)
      (after : SamePlace left.2 right.2) : observed left = observed right := by
    rw [observed, observed, samePlace_answers answers, after.position_eq]
  have reading (reads : Correspondence.ReadsOn operation) :
      observed (session.step operation) = observed (other.step operation) ∧
        SamePlace (session.step operation).2 (other.step operation).2 := by
    obtain ⟨answers, after⟩ := samePlace.step reads same
    exact ⟨seen answers after, after⟩
  cases operation with
  | program =>
    obtain ⟨answers, after⟩ := samePlace.perform respects_program Answer.tree same
    exact ⟨seen answers after, after⟩
  | warnings =>
    refine ⟨?_, same⟩
    simp only [step, observed, Answer.withoutWarnings, same.position_eq]
  | consult oracle =>
    refine ⟨?_, same.consulting oracle oracle⟩
    exact congrArg (Prod.mk Answer.done) same.position_eq
  | _ => exact reading trivial

theorem step_withoutOracle (operation : Operation) (same : SamePlace session other) :
    observed (session.step operation) = observed (other.step operation.withoutOracle) ∧
      SamePlace (session.step operation).2 (other.step operation.withoutOracle).2 := by
  cases operation with
  | consult oracle =>
    refine ⟨?_, same.consulting oracle none⟩
    exact congrArg (Prod.mk Answer.done) same.position_eq
  | _ => exact step_samePlace _ same

/-- A run is seen like the run that attaches no oracle in place of every oracle. -/
theorem run_withoutOracle (operations : List Operation) (same : SamePlace session other) :
    (session.run operations).map observed =
      (other.run (operations.map Operation.withoutOracle)).map observed := by
  induction operations generalizing session other with
  | nil => rfl
  | cons operation operations ih =>
    obtain ⟨seen, after⟩ := step_withoutOracle operation same
    simp only [run, List.map_cons]
    rw [seen, ih after]

/-- A run is seen like the run in which no operation changes the oracle. -/
theorem transcript_filter (operations : List Operation) (same : SamePlace session other) :
    session.transcript operations =
      other.transcript (operations.filter fun operation => !operation.consults) := by
  induction operations generalizing session other with
  | nil => rfl
  | cons operation operations ih =>
    cases consults : operation.consults with
    | true =>
      cases operation with
      | consult oracle =>
        have later := ih (same.consulting_left oracle)
        simpa [transcript, run, step, consults] using later
      | _ => cases consults
    | false =>
      obtain ⟨seen, after⟩ := step_samePlace operation same
      have later := ih after
      simp only [transcript] at later ⊢
      simp [run, consults, seen, later]

end Run

/-- Runs over the same tokens whose operations differ in nothing but oracles give the same answers,
warnings apart, and the same cursors: step by step when other oracles are attached at the same
places, and on the operations in common when oracles are attached at any other places, or not at
all. -/
theorem run_ignores_oracles (tokens : List Token) (oracle otherOracle : Option Oracle)
    (operations others : List Operation) :
    (operations.map Operation.withoutOracle = others.map Operation.withoutOracle →
      ((start tokens oracle).run operations).map observed =
        ((start tokens otherOracle).run others).map observed) ∧
    (operations.filter (fun operation => !operation.consults) =
        others.filter (fun operation => !operation.consults) →
      (start tokens oracle).transcript operations =
        (start tokens otherOracle).transcript others) := by
  have here := SamePlace.start tokens oracle none
  have there := SamePlace.start tokens otherOracle none
  constructor
  · intro alike
    rw [run_withoutOracle operations here, alike, run_withoutOracle others there]
  · intro alike
    rw [transcript_filter operations here, alike, transcript_filter others there]

/-- Two oracles that disagree on `x`: the warnings differ, and nothing else does. -/
theorem run_ignores_oracles_display :
    let tokens : List Token := [⟨.identifier, "x"⟩]
    let operations (oracle : Oracle) : List Operation :=
      [.consult (some oracle), .statement .display, .warnings]
    (operations (.constant true)).map Operation.withoutOracle =
        (operations (.constant false)).map Operation.withoutOracle ∧
      ((start tokens none).run (operations (.constant true))).map observed =
        ((start tokens none).run (operations (.constant false))).map observed ∧
      ((start tokens none).run (operations (.constant true))).map Prod.fst =
        [.done, .tree (Rule.node .display ["x"]), .warnings []] ∧
      ((start tokens none).run (operations (.constant false))).map Prod.fst =
        [.done, .tree (Rule.node .display ["x"]), .warnings [⟨0, "x"⟩]] :=
  ⟨rfl, (run_ignores_oracles _ none none _ _).1 rfl, rfl, rfl⟩

end Session

end Scl

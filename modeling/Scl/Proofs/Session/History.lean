import Scl.Proofs.Session.Onward

/-! # Histories of a session

A history is a list of operations. Each of them reads on from the session that it finds, or from
this session with another oracle, or from the beginning (`Operation.origin`); so whatever a history
asked and whether it failed, the tokens stay and the oracle is the one attached last. Reading the
program looks at nothing else of a session. After any history it does what it does in a session
that was just started, and reading it again and again changes nothing.
-/

namespace Scl.Session

def after (session : Session) (operations : List Operation) : Session :=
  operations.foldl (fun session operation => (session.step operation).2) session

theorem run_cons (session : Session) (operation : Operation) (operations : List Operation) :
    session.run (operation :: operations) =
      session.step operation :: (session.step operation).2.run operations := rfl

/-- A run goes on from the session that its first part leaves. -/
theorem run_append (session : Session) (operations others : List Operation) :
    session.run (operations ++ others) =
      session.run operations ++ (session.after operations).run others := by
  induction operations generalizing session with
  | nil => rfl
  | cons operation operations ih =>
    rw [List.cons_append, run_cons, run_cons, ih]
    rfl

namespace Operation

/-- The session from which an operation reads on. -/
def origin (session : Session) : Operation → Session
  | .program => session.restart
  | .consult oracle => session.consulting oracle
  | _ => session

/-- The handler that an operation calls, if it reads a statement. -/
def handler? : Operation → Option Handler
  | .statement rule => some (.rule rule)
  | .dispatch word => Handler.lookup word
  | _ => none

/-- Whether an operation reads what follows `display`. -/
def displays (operation : Operation) : Bool :=
  operation.handler? == some (.rule .display)

/-- The oracle in use after an operation. -/
def attached (current : Option Oracle) : Operation → Option Oracle
  | .consult oracle => oracle
  | _ => current

end Operation

/-- The oracle in use after operations: the one attached last. -/
def attached (current : Option Oracle) (operations : List Operation) : Option Oracle :=
  operations.foldl Operation.attached current

/-- All that an operation can do. It reads on from its origin; only the program and what follows
`display` can add a warning; an error is that of a slot at the cursor. -/
structure Stepped (session : Session) (operation : Operation) (performed : Answer × Session) :
    Prop where
  onward : ∃ most, Onward most (operation.origin session) performed.2 ∧
    (operation ≠ .program → most ≤ operation.displays.toNat)
  failure : ∀ error, performed.1 = .failed error →
    ∃ expected, error = performed.2.failure expected

section Step

variable {session : Session} {operation : Operation}

/-- An operation that only looks. -/
theorem Stepped.of_looked {answer : Answer} (same : operation.origin session = session)
    (answers : ∀ error, answer ≠ .failed error) :
    Stepped session operation (answer, session) := by
  refine ⟨⟨0, ?_, fun _ => Nat.zero_le _⟩, ?_⟩
  · rw [same]
    exact .refl session
  · intro error failed
    exact (answers error failed).elim

/-- An operation that carries out an action, whose values are no errors. -/
theorem Stepped.of_ended {most : Nat} {α : Type} {action : Parsing α} {answer : α → Answer}
    (ended : Ended most (operation.origin session) (action session))
    (few : operation ≠ .program → most ≤ operation.displays.toNat)
    (answers : ∀ value error, answer value ≠ .failed error) :
    Stepped session operation (session.perform action answer) := by
  unfold perform
  generalize action session = result at ended
  cases ended with
  | @ok value after onward =>
    refine ⟨⟨most, onward, few⟩, ?_⟩
    intro error failed
    exact (answers value error failed).elim
  | @error after expected onward =>
    refine ⟨⟨most, onward, few⟩, ?_⟩
    intro error failed
    cases failed
    exact ⟨expected, rfl⟩

/-- The slots of a handler may warn if it is the handler of `display`. -/
theorem mostWarnings_handler (handler : Handler) :
    Slot.mostWarningsAll (Handler.slots (some handler)) =
      (some handler == some (.rule .display)).toNat := by
  cases handler with
  | rule rule => cases rule <;> rfl
  | placeholder word => rfl

theorem stepped (session : Session) (operation : Operation) :
    Stepped session operation (session.step operation) := by
  cases operation with
  | isAtEnd | peek | nextIs | placeholder | warnings => exact .of_looked rfl nofun
  | advance => exact .of_ended (Parsing.advances_advance session) (fun _ => Nat.zero_le _) nofun
  | matchWord word =>
    exact .of_ended (Parsing.advances_matchWord word session) (fun _ => Nat.zero_le _) nofun
  | expectKind | expectWord | expectAny =>
    exact .of_ended (Parsing.advances_expect _ _ session) (fun _ => Nat.zero_le _) nofun
  | expectWords words =>
    exact .of_ended (Parsing.advances_expectWords words session) (fun _ => Nat.zero_le _) nofun
  | statement rule =>
    have few := Nat.le_of_eq (mostWarnings_handler (.rule rule))
    exact .of_ended (Parsing.advances_handle "" (some (.rule rule)) session) (fun _ => few) nofun
  | dispatch word =>
    simp only [step]
    split
    · exact .of_looked rfl nofun
    · next handler found =>
      have few := Nat.le_of_eq (mostWarnings_handler handler)
      rw [← found] at few
      refine .of_ended (Parsing.advances_handle word (some handler) session) ?_ nofun
      rw [← found]
      exact fun _ => few
  | program =>
    obtain ⟨most, ended⟩ := Parsing.ended_program session
    exact .of_ended ended (fun other => (other rfl).elim) nofun
  | consult oracle =>
    refine ⟨⟨0, .refl _, fun _ => Nat.zero_le _⟩, ?_⟩
    intro error failed
    cases failed

theorem tokens_step (session : Session) (operation : Operation) :
    (session.step operation).2.tokens = session.tokens := by
  obtain ⟨_, onward, _⟩ := (stepped session operation).onward
  rw [onward.tokens]
  cases operation <;> rfl

theorem oracle_step (session : Session) (operation : Operation) :
    (session.step operation).2.oracle = operation.attached session.oracle := by
  obtain ⟨_, onward, _⟩ := (stepped session operation).onward
  rw [onward.oracle]
  cases operation <;> rfl

end Step

section History

variable (session : Session) (operations : List Operation)

theorem tokens_after : (session.after operations).tokens = session.tokens := by
  induction operations generalizing session with
  | nil => rfl
  | cons operation operations ih => exact (ih _).trans (tokens_step session operation)

theorem oracle_after :
    (session.after operations).oracle = attached session.oracle operations := by
  induction operations generalizing session with
  | nil => rfl
  | cons operation operations ih =>
    refine (ih _).trans ?_
    rw [oracle_step]
    rfl

/-- The program is read from the tokens and the oracle alone. -/
theorem step_program (session : Session) :
    session.step .program = (start session.tokens session.oracle).step .program := rfl

/-- A program that was read is read again with the same answer, and leaves the same session. -/
theorem run_replicate_program (count : Nat) :
    session.run (List.replicate count .program) =
      List.replicate count (session.step .program) := by
  induction count generalizing session with
  | zero => rfl
  | succ count ih =>
    have again : (session.step .program).2.step .program = session.step .program := by
      rw [step_program, tokens_step, oracle_step]
      rfl
    rw [List.replicate_succ, List.replicate_succ, run_cons, ih, again]

end History

/-- Whatever was asked of a session before, also when it failed half-way, reading the program now,
once or any number of times, gives each time the answer and leaves the session that it does in a
session just started over the same tokens with the oracle attached last. -/
theorem run_program_forgets (tokens : List Token) (oracle : Option Oracle)
    (operations : List Operation) (count : Nat) :
    (start tokens oracle).run (operations ++ List.replicate count .program) =
      (start tokens oracle).run operations ++
        List.replicate count ((start tokens (attached oracle operations)).step .program) := by
  have kept := tokens_after (start tokens oracle) operations
  have current := oracle_after (start tokens oracle) operations
  rw [run_append, run_replicate_program, step_program, kept, current]
  rfl

end Scl.Session

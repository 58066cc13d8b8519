import Mathlib.Algebra.GroupWithZero.Nat
import Scl.Proofs.Reading
import Scl.Session.Operation

/-! # Reading on

What an action may do to a session, whatever the session is: the tokens and the oracle stay, the
cursor moves forward, and warnings are added behind those found before. An action that fails
reports the slot at which it leaves the cursor. The relation is a preorder that also counts the
warnings, so each action inherits it from its parts. A whole program starts again and is not an
instance of it; what it keeps of the session before is stated at the end.
-/

namespace Scl

/-- The session `after` is reached from `session` by reading on, with at most `most` warnings. -/
structure Session.Onward (most : Nat) (session after : Session) : Prop where
  tokens : after.tokens = session.tokens
  oracle : after.oracle = session.oracle
  position : session.position ≤ after.position
  warnings : ∃ added, after.warnings = session.warnings ++ added ∧ added.length ≤ most

namespace Session.Onward

variable {most others : Nat} {session between after : Session}

theorem refl (session : Session) : Onward 0 session session :=
  ⟨rfl, rfl, Nat.le_refl _, [], (List.append_nil _).symm, Nat.le_refl _⟩

theorem trans (first : Onward most session between) (second : Onward others between after) :
    Onward (most + others) session after := by
  obtain ⟨added, found, few⟩ := first.warnings
  obtain ⟨more, later, fewMore⟩ := second.warnings
  refine ⟨second.tokens.trans first.tokens, second.oracle.trans first.oracle,
    Nat.le_trans first.position second.position, added ++ more, ?_, ?_⟩
  · rw [later, found, List.append_assoc]
  · rw [List.length_append]
    omega

theorem weaken (onward : Onward most session after) (enough : most ≤ others) :
    Onward others session after := by
  obtain ⟨added, found, few⟩ := onward.warnings
  exact ⟨onward.tokens, onward.oracle, onward.position, added, found, by omega⟩

theorem pass {token : Token} {rest : List Token} (next : session.rest = token :: rest) :
    Onward 0 session (session.pass token rest) := by
  refine ⟨tokens_pass next, rfl, ?_, [], (List.append_nil _).symm, Nat.le_refl _⟩
  rw [position_pass]
  omega

theorem note (session : Session) (event : Event) : Onward 0 session (session.note event) :=
  ⟨rfl, rfl, Nat.le_refl _, [], (List.append_nil _).symm, Nat.le_refl _⟩

theorem enter {first : Token} {rest : List Token} (next : session.rest = first :: rest) :
    Onward 0 session (session.enter first rest) := by
  have noted := note session (.statement session.position first.value (Handler.lookup first.value))
  exact noted.trans (pass next)

theorem check (session : Session) (warning : Warning) :
    Onward 1 session (session.check warning) := by
  unfold Session.check
  split
  · exact ⟨rfl, rfl, Nat.le_refl _, [warning], warnings_warn session warning, Nat.le_refl _⟩
  · exact (refl session).weaken (Nat.zero_le 1)

end Session.Onward

/-- A way for an action to end: it read on, and an error is that of a slot at the cursor. -/
inductive Session.Ended (most : Nat) (session : Session) {α : Type} :
    EStateM.Result ParseError Session α → Prop where
  | ok {answer : α} {after : Session} (onward : Onward most session after) :
    Ended most session (.ok answer after)
  | error {after : Session} (expected : String) (onward : Onward most session after) :
    Ended most session (.error (after.failure expected) after)

/-- The largest number of warnings of a slot. -/
def Slot.mostWarnings (slot : Slot) : Nat :=
  if slot.shape = .declared then 1 else 0

/-- The largest number of warnings of slots. -/
def Slot.mostWarningsAll (slots : List Slot) : Nat :=
  (slots.map Slot.mostWarnings).sum

namespace Parsing

open Session

/-- An action that reads on from every session, with at most `most` warnings. -/
def Advances {α : Type} (most : Nat) (action : Parsing α) : Prop :=
  ∀ session, Ended most session (action session)

section Combinators

variable {α β : Type} {most others : Nat}

theorem advances_pure (answer : α) : Advances 0 (pure answer : Parsing α) :=
  fun session => .ok (.refl session)

theorem advances_get : Advances 0 (get : Parsing Session) :=
  fun session => .ok (.refl session)

theorem advances_bind {action : Parsing α} {next : α → Parsing β}
    (first : Advances most action) (second : ∀ answer, Advances others (next answer)) :
    Advances (most + others) (action >>= next) := by
  intro session
  have ran := first session
  simp only [bind, EStateM.bind]
  generalize action session = result at ran
  cases ran with
  | error expected onward => exact .error expected (onward.weaken (Nat.le_add_right ..))
  | @ok answer between onward =>
    have later := second answer between
    simp only
    generalize next answer between = last at later
    cases later with
    | ok after => exact .ok (onward.trans after)
    | error expected after => exact .error expected (onward.trans after)

end Combinators

theorem advances_advance : Advances 0 advance := by
  intro session
  unfold advance
  split
  · exact .ok (.refl session)
  · next token rest next => exact .ok (.pass next)

theorem advances_expect (admits : Token → Bool) (expected : String) :
    Advances 0 (expect admits expected) := by
  intro session
  unfold expect
  split
  · exact .error expected (.refl session)
  · next token rest next =>
    split
    · exact .ok (.pass next)
    · exact .error expected (.refl session)

theorem advances_matchWord (word : String) : Advances 0 (matchWord word) := by
  intro session
  unfold matchWord
  split
  · exact .ok (.refl session)
  · next token rest next =>
    split
    · exact .ok (.pass next)
    · exact .ok (.refl session)

theorem advances_expectWords (words : List String) : Advances 0 (expectWords words) := by
  induction words with
  | nil => exact advances_pure ()
  | cons word words ih => exact advances_bind (advances_expect _ _) fun _ => ih

theorem advances_checkDeclared (warning : Warning) : Advances 1 (checkDeclared warning) := by
  intro session
  rw [checkDeclared_eq]
  exact .ok (.check session warning)

theorem advances_fill (slot : Slot) : Advances slot.mostWarnings (fill slot) := by
  have answered (session : Session) (token : Token) :
      Advances slot.mostWarnings (do
        if slot.shape = .declared then
          checkDeclared { position := session.position, name := token.value }
        return slot.shape.label token) := by
    unfold Slot.mostWarnings
    split
    · exact advances_bind (advances_checkDeclared _) fun _ => advances_pure _
    · exact advances_bind (advances_pure _) fun _ => advances_pure _
  have filled := advances_bind advances_get fun session =>
    advances_bind (advances_expect slot.shape.admits slot.expected) (answered session)
  rwa [Nat.zero_add, Nat.zero_add] at filled

theorem advances_fillAll (slots : List Slot) :
    Advances (Slot.mostWarningsAll slots) (fillAll slots) := by
  induction slots with
  | nil => exact advances_pure []
  | cons slot slots ih =>
    exact advances_bind (advances_fill slot) fun _ => advances_bind ih fun _ => advances_pure _

theorem advances_handle (word : String) (handler : Option Handler) :
    Advances (Slot.mostWarningsAll (Handler.slots handler)) (handle word handler) := by
  rw [handle_eq]
  exact advances_bind (advances_fillAll _) fun _ => advances_pure _

/-- Statement after statement, by induction on the tokens to come. There is no bound on the
warnings of all. -/
theorem ended_statements (session : Session) :
    ∃ most, Ended most session (statements session) := by
  induction length : session.rest.length using Nat.strongRecOn generalizing session with
  | ind count ih =>
    cases here : session.rest with
    | nil =>
      rw [statements_nil here]
      exact ⟨0, .ok (.refl session)⟩
    | cons first rest =>
      have entered := Onward.enter here
      have read := advances_handle first.value (Handler.lookup first.value)
        (session.enter first rest)
      rw [statements_cons here]
      simp only [bind, EStateM.bind]
      generalize ran : handle first.value _ (session.enter first rest) = result at read
      cases read with
      | error expected onward => exact ⟨_, .error expected (entered.trans onward)⟩
      | @ok tree between onward =>
        have shorter : between.rest.length < count := by
          have forward := forward_handle _ _ _ _ _ ran
          simp only [Session.enter, rest_pass] at forward
          rw [here, List.length_cons] at length
          omega
        obtain ⟨most, later⟩ := ih _ shorter between rfl
        have started := entered.trans onward
        simp only
        generalize statements between = last at later
        cases later with
        | ok after => exact ⟨_, .ok (started.trans after)⟩
        | error expected after => exact ⟨_, .error expected (started.trans after)⟩

/-- A whole program reads on from its first token, wherever the session stood before. -/
theorem ended_program (session : Session) :
    ∃ most, Ended most session.restart (program session) := by
  obtain ⟨most, read⟩ := ended_statements session.restart
  unfold program
  generalize statements session.restart = result at read
  refine ⟨most, ?_⟩
  cases read with
  | ok onward => exact .ok onward
  | error expected onward => exact .error expected onward

end Parsing

end Scl

import Scl.Program
import Scl.Proofs.Sentence

/-! # What reading does to a session

Filling a slot passes one token and may add one warning, so the session after an action is a
function of the session before, the slots, and the tokens to come. `Session.take` and
`Session.read` are that function for a slot and for a statement. The lemmas here give the answer of
each action together with the session after it, from any session, on success and on failure; nothing
later has to open an action.
-/

namespace Scl

namespace Slot

/-- The warning of a slot that took a name which the oracle does not know. -/
def undeclared (slot : Slot) (oracle : Option Oracle) (position : Nat) (token : Token) :
    List Warning :=
  if slot.shape = .declared ∧ oracle.any (fun declared => !declared token.value) = true then
    [{ position, name := token.value }]
  else []

/-- The warnings of slots that took tokens, the first of them at `position`. -/
def undeclaredAll (oracle : Option Oracle) : Nat → List Slot → List Token → List Warning
  | position, slot :: slots, token :: tokens =>
    slot.undeclared oracle position token ++ undeclaredAll oracle (position + 1) slots tokens
  | _, _, _ => []

end Slot

namespace Session

/-- The session after the check of a name. -/
def check (session : Session) (warning : Warning) : Session :=
  if session.oracle.any (fun declared => !declared warning.name) = true then session.warn warning
  else session

/-- The session after a slot took the next token, if there is one. -/
def take (session : Session) (slot : Slot) : Session :=
  match session.rest with
  | [] => session
  | token :: rest =>
    if slot.shape = .declared then
      (session.pass token rest).check { position := session.position, name := token.value }
    else session.pass token rest

/-- The session after a first token and then slots took the next tokens. -/
def read (session : Session) (first : Token) (slots : List Slot) : Session :=
  slots.foldl take (session.enter first session.rest.tail)

section Take

variable {session : Session} {token : Token} {taken rest : List Token}

theorem rest_check (session : Session) (warning : Warning) :
    (session.check warning).rest = session.rest := by
  unfold check; split <;> rfl

theorem position_check (session : Session) (warning : Warning) :
    (session.check warning).position = session.position := by
  unfold check; split <;> rfl

theorem oracle_check (session : Session) (warning : Warning) :
    (session.check warning).oracle = session.oracle := by
  unfold check; split <;> rfl

theorem rest_take (next : session.rest = token :: rest) (slot : Slot) :
    (session.take slot).rest = rest := by
  simp only [take, next]
  split <;> simp [rest_check]

theorem position_take (next : session.rest = token :: rest) (slot : Slot) :
    (session.take slot).position = session.position + 1 := by
  simp only [take, next]
  split <;> simp [position_check]

theorem oracle_take (session : Session) (slot : Slot) :
    (session.take slot).oracle = session.oracle := by
  unfold take
  split
  · rfl
  · split
    · rw [oracle_check]; rfl
    · rfl

theorem warnings_take (next : session.rest = token :: rest) (slot : Slot) :
    (session.take slot).warnings =
      session.warnings ++ slot.undeclared session.oracle session.position token := by
  have same : (session.pass token rest).oracle = session.oracle := rfl
  simp only [take, next, check, same]
  by_cases declared : slot.shape = .declared
  · by_cases unknown : session.oracle.any (fun declared => !declared token.value) = true
    · simp [Slot.undeclared, declared, unknown]
    · simp [Slot.undeclared, declared, unknown]
  · simp [Slot.undeclared, declared]

theorem oracle_takeAll (session : Session) (slots : List Slot) :
    (slots.foldl take session).oracle = session.oracle := by
  induction slots generalizing session with
  | nil => rfl
  | cons slot slots ih => rw [List.foldl_cons, ih, oracle_take]

theorem rest_takeAll {slots : List Slot} (filled : Slot.Filled slots taken)
    (here : session.rest = taken ++ rest) : (slots.foldl take session).rest = rest := by
  induction filled generalizing session with
  | nil => exact here
  | @cons slot token slots taken _ _ ih => exact ih (rest_take here slot)

theorem position_takeAll {slots : List Slot} (filled : Slot.Filled slots taken)
    (here : session.rest = taken ++ rest) :
    (slots.foldl take session).position = session.position + taken.length := by
  induction filled generalizing session with
  | nil => rfl
  | @cons slot token slots taken _ _ ih =>
    rw [List.foldl_cons, ih (rest_take here slot), position_take here, List.length_cons]
    omega

theorem warnings_takeAll {slots : List Slot} (filled : Slot.Filled slots taken)
    (here : session.rest = taken ++ rest) :
    (slots.foldl take session).warnings =
      session.warnings ++ Slot.undeclaredAll session.oracle session.position slots taken := by
  induction filled generalizing session with
  | nil => exact (List.append_nil _).symm
  | @cons slot token slots taken _ _ ih =>
    rw [List.foldl_cons, ih (rest_take here slot), warnings_take here, oracle_take,
      position_take here, List.append_assoc]
    rfl

end Take

section Read

variable {session : Session} {first : Token} {slots : List Slot} {taken rest : List Token}

private theorem rest_entered (here : session.rest = first :: (taken ++ rest)) :
    (session.enter first session.rest.tail).rest = taken ++ rest := by
  rw [here]; rfl

theorem oracle_read (session : Session) (first : Token) (slots : List Slot) :
    (session.read first slots).oracle = session.oracle := by
  rw [read, oracle_takeAll]; rfl

theorem rest_read (filled : Slot.Filled slots taken)
    (here : session.rest = first :: (taken ++ rest)) : (session.read first slots).rest = rest :=
  rest_takeAll filled (rest_entered here)

theorem position_read (filled : Slot.Filled slots taken)
    (here : session.rest = first :: (taken ++ rest)) :
    (session.read first slots).position = session.position + 1 + taken.length :=
  position_takeAll filled (rest_entered here)

theorem warnings_read (filled : Slot.Filled slots taken)
    (here : session.rest = first :: (taken ++ rest)) :
    (session.read first slots).warnings =
      session.warnings ++
        Slot.undeclaredAll session.oracle (session.position + 1) slots taken :=
  warnings_takeAll filled (rest_entered here)

end Read

end Session

namespace Parsing

theorem bind_of_ok {α β : Type} {action : Parsing α} {next : α → Parsing β}
    {session after : Session} {answer : α} (ran : action session = .ok answer after) :
    (action >>= next) session = next answer after := by
  simp only [bind, EStateM.bind, ran]

theorem bind_of_error {α β : Type} {action : Parsing α} {next : α → Parsing β}
    {session after : Session} {error : ParseError} (ran : action session = .error error after) :
    (action >>= next) session = .error error after := by
  simp only [bind, EStateM.bind, ran]

section Fill

variable {session : Session} {slot : Slot} {token : Token} {taken rest : List Token}

theorem checkDeclared_eq (session : Session) (warning : Warning) :
    checkDeclared warning session = .ok () (session.check warning) := by
  unfold checkDeclared Session.check
  cases session.oracle with
  | none => rfl
  | some declared => cases known : declared warning.name <;> simp [known]

theorem expect_of_admits {admits : Token → Bool} {expected : String}
    (next : session.rest = token :: rest) (admitted : admits token = true) :
    expect admits expected session = .ok token (session.pass token rest) := by
  simp only [expect, next, admitted, if_true]

theorem expect_of_unmet {admits : Token → Bool} {expected : String}
    (unmet : ∀ token ∈ session.rest.head?, admits token = false) :
    expect admits expected session = .error (session.failure expected) session := by
  unfold expect
  split
  · rfl
  · next token rest next =>
    rw [unmet token (by rw [next]; rfl), if_neg Bool.false_ne_true]

theorem fill_of_admits (next : session.rest = token :: rest)
    (admitted : slot.shape.admits token = true) :
    fill slot session = .ok (slot.shape.label token) (session.take slot) := by
  have gotten : (get : Parsing Session) session = .ok session session := rfl
  rw [fill, bind_of_ok gotten, bind_of_ok (expect_of_admits next admitted)]
  simp only [Session.take, next]
  split
  · rw [bind_of_ok (checkDeclared_eq _ _)]; rfl
  · rfl

theorem fill_of_unmet (unmet : ∀ token ∈ session.rest.head?, slot.shape.admits token = false) :
    fill slot session = .error (session.failure slot.expected) session := by
  have gotten : (get : Parsing Session) session = .ok session session := rfl
  rw [fill, bind_of_ok gotten, bind_of_error (expect_of_unmet unmet)]

theorem fillAll_of_filled {slots : List Slot} (filled : Slot.Filled slots taken)
    (here : session.rest = taken ++ rest) :
    fillAll slots session =
      .ok (List.zipWith (fun slot token => slot.shape.label token) slots taken)
        (slots.foldl Session.take session) := by
  induction filled generalizing session with
  | nil => rfl
  | @cons slot token slots taken admitted _ ih =>
    rw [fillAll, bind_of_ok (fill_of_admits here admitted),
      bind_of_ok (ih (Session.rest_take here slot))]
    rfl

/-- The slots before the unmet one are filled, and their tokens stay passed. -/
theorem fillAll_of_unmet {before others : List Slot} (filled : Slot.Filled before taken)
    (here : session.rest = taken ++ rest)
    (unmet : ∀ token ∈ rest.head?, slot.shape.admits token = false) :
    fillAll (before ++ slot :: others) session =
      .error ((before.foldl Session.take session).failure slot.expected)
        (before.foldl Session.take session) := by
  induction filled generalizing session with
  | nil =>
    rw [List.nil_append] at here
    rw [← here] at unmet
    rw [List.nil_append, fillAll, bind_of_error (fill_of_unmet unmet)]
    rfl
  | @cons filledSlot token before taken admitted _ ih =>
    rw [List.cons_append, fillAll, bind_of_ok (fill_of_admits here admitted),
      bind_of_error (ih (Session.rest_take here filledSlot))]
    rfl

end Fill

/-- Every way to read a statement on is to fill its slots and to make its node. -/
theorem handle_eq (word : String) (handler : Option Handler) :
    handle word handler = (do
      let leaves ← fillAll (Handler.slots handler)
      return Handler.node word leaves handler) := by
  match handler with
  | some (.rule rule) => rfl
  | some (.placeholder reserved) => rfl
  | none => rfl

theorem handle_of_filled {word : String} {handler : Option Handler} {session after : Session}
    {leaves : List String}
    (filled : fillAll (Handler.slots handler) session = .ok leaves after) :
    handle word handler session = .ok (Handler.node word leaves handler) after := by
  rw [handle_eq, bind_of_ok filled]
  rfl

theorem handle_of_unmet {word : String} {handler : Option Handler} {session after : Session}
    {error : ParseError} (unmet : fillAll (Handler.slots handler) session = .error error after) :
    handle word handler session = .error error after := by
  rw [handle_eq, bind_of_error unmet]

section Statements

variable {session : Session} {rest : List Token}

/-- A sentence is one round of the loop. -/
theorem statements_of_sentence (sentence : Sentence)
    (here : session.rest = sentence.span ++ rest) :
    statements session =
      (do
        let trees ← statements
        return sentence.node :: trees : Parsing (List Tree))
        (session.read sentence.first sentence.first.slots) := by
  let inside := session.enter sentence.first (sentence.operands ++ rest)
  have filled : fillAll sentence.first.slots inside =
      .ok sentence.leaves (sentence.first.slots.foldl Session.take inside) :=
    fillAll_of_filled sentence.filled rfl
  rw [statements_cons here]
  refine (bind_of_ok (handle_of_filled filled)).trans ?_
  rw [Session.read, here]
  rfl

/-- A fragment is where the loop stops. -/
theorem statements_of_fragment (fragment : Fragment) (here : session.rest = fragment.tokens) :
    statements session =
      .error ((session.read fragment.first fragment.before).failure fragment.slot.expected)
        (session.read fragment.first fragment.before) := by
  let inside := session.enter fragment.first (fragment.taken ++ fragment.rest)
  have stopped : fillAll fragment.first.slots inside =
      .error ((fragment.before.foldl Session.take inside).failure fragment.slot.expected)
        (fragment.before.foldl Session.take inside) := by
    rw [fragment.slots_eq]
    exact fillAll_of_unmet fragment.filled rfl fragment.unmet
  rw [statements_cons here]
  refine (bind_of_error (handle_of_unmet stopped)).trans ?_
  rw [Session.read, here]
  rfl

end Statements

end Parsing

end Scl

import Scl.Session

/-! # Parsing actions

An action reads on in a session. It gives an answer or a parse error, and in both cases the session
where reading stopped: an action that fails has passed the tokens it took before, never the token
it failed at. No action moves the cursor back (`Parsing.Forward`).
-/

namespace Scl

/-- A step of reading, whose failure keeps the session. -/
abbrev Parsing := EStateM ParseError Session

namespace Parsing

/-- Passes the next token, whatever it is. -/
def advance : Parsing (Option Token) := fun session =>
  match session.rest with
  | [] => .ok none session
  | token :: rest => .ok (some token) (session.pass token rest)

/-- Passes the next token if it is admitted, and fails before it otherwise. -/
def expect (admits : Token → Bool) (expected : String) : Parsing Token := fun session =>
  match session.rest with
  | [] => .error (session.failure expected) session
  | token :: rest =>
    if admits token then .ok token (session.pass token rest)
    else .error (session.failure expected) session

def expectKind (kind : Token.Kind) (expected : String) : Parsing Token :=
  expect (·.kind == kind) expected

def expectWord (word : String) (expected : String) : Parsing Token :=
  expect (fun token => Text.sameWord token.value word) expected

/-- Passes any token, so it fails at the end only. -/
def expectAny (expected : String) : Parsing Token :=
  expect (fun _ => true) expected

/-- Passes tokens that spell the words in turn, and fails at the first that does not. -/
def expectWords : List String → Parsing Unit
  | [] => pure ()
  | word :: words => do
    let _ ← expectWord word (Slot.expectedWord word)
    expectWords words

/-- Passes the next token if it spells a word, and tells whether it did. -/
def matchWord (word : String) : Parsing Bool := fun session =>
  match session.rest with
  | [] => .ok false session
  | token :: rest =>
    if Text.sameWord token.value word then .ok true (session.pass token rest)
    else .ok false session

/-- Warns of a name that the oracle in use does not know. -/
def checkDeclared (warning : Warning) : Parsing Unit := fun session =>
  match session.oracle with
  | none => .ok () session
  | some declared =>
    if declared warning.name then .ok () session else .ok () (session.warn warning)

/-- Fills a slot with the next token and gives its leaf. -/
def fill (slot : Slot) : Parsing String := do
  let session ← get
  let token ← expect slot.shape.admits slot.expected
  if slot.shape = .declared then
    checkDeclared { position := session.position, name := token.value }
  return slot.shape.label token

/-- Fills slots in turn and gives their leaves. -/
def fillAll : List Slot → Parsing (List String)
  | [] => return []
  | slot :: slots => do
    let leaf ← fill slot
    let leaves ← fillAll slots
    return leaf :: leaves

/-- Reads what follows the keyword of a rule and gives the statement's node. -/
def statement (rule : Rule) : Parsing Tree := do
  let leaves ← fillAll rule.slots
  return rule.node leaves

/-- Reads what follows the first word of a statement and gives the statement's node. -/
def handle (word : String) : Option Handler → Parsing Tree
  | some (.rule rule) => statement rule
  | some (.placeholder reserved) => return placeholder reserved
  | none => return unknownStatement word

/-- An action that never moves the cursor back when it succeeds. -/
def Forward {α : Type} (action : Parsing α) : Prop :=
  ∀ session answer after,
    action session = .ok answer after → after.rest.length ≤ session.rest.length

theorem forward_pure {α : Type} (answer : α) : Forward (pure answer : Parsing α) := by
  intro session answer' after run
  cases run
  exact Nat.le_refl _

theorem forward_bind {α β : Type} {action : Parsing α} {next : α → Parsing β}
    (first : Forward action) (second : ∀ answer, Forward (next answer)) :
    Forward (action >>= next) := by
  intro session answer after run
  simp only [bind, EStateM.bind] at run
  split at run
  · next middle between ran =>
    exact Nat.le_trans (second _ _ _ _ run) (first _ _ _ ran)
  · cases run

theorem forward_get : Forward (get : Parsing Session) := by
  intro session answer after run
  cases run
  exact Nat.le_refl _

theorem forward_expect (admits : Token → Bool) (expected : String) :
    Forward (expect admits expected) := by
  intro session answer after run
  simp only [expect] at run
  split at run
  · cases run
  · next token rest here =>
    split at run
    · cases run
      simp [here]
    · cases run

theorem forward_checkDeclared (warning : Warning) : Forward (checkDeclared warning) := by
  intro session answer after run
  simp only [checkDeclared] at run
  split at run
  · cases run; exact Nat.le_refl _
  · split at run <;> (cases run; exact Nat.le_refl _)

theorem forward_fill (slot : Slot) : Forward (fill slot) := by
  refine forward_bind forward_get fun session => forward_bind (forward_expect _ _) fun token => ?_
  split
  · exact forward_bind (forward_checkDeclared _) fun _ => forward_pure _
  · exact forward_bind (forward_pure _) fun _ => forward_pure _

theorem forward_fillAll (slots : List Slot) : Forward (fillAll slots) := by
  induction slots with
  | nil => exact forward_pure _
  | cons slot slots ih =>
    exact forward_bind (forward_fill slot) fun _ => forward_bind ih fun _ => forward_pure _

theorem forward_handle (word : String) (handler : Option Handler) :
    Forward (handle word handler) := by
  match handler with
  | some (.rule rule) => exact forward_bind (forward_fillAll _) fun _ => forward_pure _
  | some (.placeholder _) => exact forward_pure _
  | none => exact forward_pure _

end Parsing

end Scl

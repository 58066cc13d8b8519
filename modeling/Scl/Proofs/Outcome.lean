import Scl.Proofs.Reading

/-! # The outcome of a parse

What a whole parse gives is read off the cut of its tokens. Sentences alone give their nodes; a
fragment after them gives the error of its unmet slot, wherever it stands. The warnings are those
of the slots filled, whether the parse succeeds or not. By `exists_cut` one of the two cases holds
of all tokens, so these lemmas say all there is to say about `parse`.
-/

namespace Scl

/-- The warnings of a whole parse, whether it succeeds or not. -/
def parseWarnings (tokens : List Token) (oracle : Option Oracle) : List Warning :=
  match Parsing.program (.start tokens oracle) with
  | .ok _ after => after.warnings
  | .error _ after => after.warnings

/-- The session after sentences were read. -/
def Session.readAll (session : Session) (sentences : List Sentence) : Session :=
  sentences.foldl (fun session sentence => session.read sentence.first sentence.first.slots) session

namespace Sentence

/-- The warnings of sentences, the first of which starts at `position`. -/
def warnings (oracle : Option Oracle) : Nat → List Sentence → List Warning
  | _, [] => []
  | position, sentence :: sentences =>
    Slot.undeclaredAll oracle (position + 1) sentence.first.slots sentence.operands ++
      warnings oracle (position + sentence.span.length) sentences

theorem warnings_append (oracle : Option Oracle) (position : Nat)
    (sentences others : List Sentence) :
    warnings oracle position (sentences ++ others) =
      warnings oracle position sentences ++
        warnings oracle (position + (spans sentences).length) others := by
  induction sentences generalizing position with
  | nil => rfl
  | cons sentence sentences ih =>
    simp only [List.cons_append, warnings, ih, spans_cons, span, List.length_cons,
      List.length_append, List.append_assoc]
    congr 3
    omega

end Sentence

def Fragment.warnings (fragment : Fragment) (oracle : Option Oracle) (position : Nat) :
    List Warning :=
  Slot.undeclaredAll oracle (position + 1) fragment.before fragment.taken

def Fragment.error (fragment : Fragment) (position : Nat) : ParseError :=
  { position := position + fragment.width
    found := fragment.rest.head?.map (·.value)
    expected := fragment.slot.expected }

@[simp] theorem Fragment.position_error (fragment : Fragment) (position : Nat) :
    (fragment.error position).position = position + fragment.width := rfl

@[simp] theorem Fragment.found_error (fragment : Fragment) (position : Nat) :
    (fragment.error position).found = fragment.rest.head?.map (·.value) := rfl

section Run

open Sentence

variable {session : Session} {sentences : List Sentence} {rest : List Token}

theorem Session.position_start (tokens : List Token) (oracle : Option Oracle) :
    (start tokens oracle).position = 0 := rfl

theorem Session.oracle_readAll (session : Session) (sentences : List Sentence) :
    (session.readAll sentences).oracle = session.oracle := by
  induction sentences generalizing session with
  | nil => rfl
  | cons sentence sentences ih => exact (ih _).trans (session.oracle_read ..)

theorem Session.rest_readAll (here : session.rest = spans sentences ++ rest) :
    (session.readAll sentences).rest = rest := by
  induction sentences generalizing session with
  | nil => exact here
  | cons sentence sentences ih =>
    rw [spans_cons, List.cons_append, List.append_assoc] at here
    exact ih (Session.rest_read sentence.filled here)

theorem Session.position_readAll (here : session.rest = spans sentences ++ rest) :
    (session.readAll sentences).position = session.position + (spans sentences).length := by
  induction sentences generalizing session with
  | nil => rfl
  | cons sentence sentences ih =>
    rw [spans_cons, List.cons_append, List.append_assoc] at here
    have later := ih (Session.rest_read sentence.filled here)
    rw [Session.position_read sentence.filled here] at later
    refine later.trans ?_
    simp only [spans_cons, List.length_cons, List.length_append]
    omega

theorem Session.warnings_readAll (here : session.rest = spans sentences ++ rest) :
    (session.readAll sentences).warnings =
      session.warnings ++ Sentence.warnings session.oracle session.position sentences := by
  induction sentences generalizing session with
  | nil => exact (List.append_nil _).symm
  | cons sentence sentences ih =>
    rw [spans_cons, List.cons_append, List.append_assoc] at here
    have later := ih (Session.rest_read sentence.filled here)
    rw [Session.warnings_read sentence.filled here, Session.oracle_read,
      Session.position_read sentence.filled here, List.append_assoc] at later
    refine later.trans ?_
    have width : sentence.span.length = 1 + sentence.operands.length :=
      Nat.add_comm ..
    rw [Sentence.warnings, width, Nat.add_assoc session.position 1]

/-- Sentences add their nodes in front of what the rest of the tokens gives. -/
theorem Parsing.statements_ok_of_sentences {trees : List Tree} {after : Session}
    (here : session.rest = spans sentences ++ rest)
    (later : statements (session.readAll sentences) = .ok trees after) :
    statements session = .ok (sentences.map node ++ trees) after := by
  induction sentences generalizing session with
  | nil => exact later
  | cons sentence sentences ih =>
    rw [spans_cons, List.cons_append, List.append_assoc] at here
    have tail := ih (Session.rest_read sentence.filled here) later
    rw [statements_of_sentence sentence here, bind_of_ok tail]
    rfl

/-- Sentences do not change the error that the rest of the tokens gives. -/
theorem Parsing.statements_error_of_sentences {error : ParseError} {after : Session}
    (here : session.rest = spans sentences ++ rest)
    (later : statements (session.readAll sentences) = .error error after) :
    statements session = .error error after := by
  induction sentences generalizing session with
  | nil => exact later
  | cons sentence sentences ih =>
    rw [spans_cons, List.cons_append, List.append_assoc] at here
    have tail := ih (Session.rest_read sentence.filled here) later
    rw [statements_of_sentence sentence here, bind_of_error tail]

end Run

/-- A session that was just started is started again without a difference. -/
theorem Parsing.program_start (tokens : List Token) (oracle : Option Oracle) :
    program (.start tokens oracle) =
      match statements (.start tokens oracle) with
      | .error error after => .error error after
      | .ok trees after => .ok (.node "Program" trees) after := rfl

section Whole

open Sentence Parsing

variable (sentences : List Sentence) (fragment : Fragment) (oracle : Option Oracle)

private theorem rest_start_sentences :
    (Session.start (spans sentences) oracle).rest = spans sentences ++ [] :=
  (List.append_nil _).symm

theorem Parsing.program_of_sentences :
    program (.start (spans sentences) oracle) =
      .ok (.node "Program" (sentences.map node))
        ((Session.start (spans sentences) oracle).readAll sentences) := by
  have here := rest_start_sentences sentences oracle
  have finished := statements_nil (Session.rest_readAll here)
  have ran := statements_ok_of_sentences here finished
  rw [List.append_nil] at ran
  rw [program_start, ran]

theorem Parsing.program_of_fragment :
    program (.start (spans sentences ++ fragment.tokens) oracle) =
      .error (fragment.error (spans sentences).length)
        (((Session.start (spans sentences ++ fragment.tokens) oracle).readAll sentences).read
          fragment.first fragment.before) := by
  have here : (Session.start (spans sentences ++ fragment.tokens) oracle).rest =
      spans sentences ++ fragment.tokens := rfl
  have next := Session.rest_readAll here
  have position := Session.position_readAll here
  have ran := statements_error_of_sentences here (statements_of_fragment fragment next)
  rw [program_start, ran]
  simp only [Session.failure, Session.peek, Session.rest_read fragment.filled next,
    Session.position_read fragment.filled next, position, Session.position_start,
    Fragment.error, Fragment.width, Nat.add_assoc, Nat.zero_add]

theorem parse_of_sentences :
    parse (spans sentences) oracle = .ok (.node "Program" (sentences.map node)) := by
  rw [parse, program_of_sentences]

theorem parse_of_fragment :
    parse (spans sentences ++ fragment.tokens) oracle =
      .error (fragment.error (spans sentences).length) := by
  rw [parse, program_of_fragment]

theorem parseWarnings_of_sentences :
    parseWarnings (spans sentences) oracle = warnings oracle 0 sentences := by
  rw [parseWarnings, program_of_sentences]
  exact Session.warnings_readAll (rest_start_sentences sentences oracle)

theorem parseWarnings_of_fragment :
    parseWarnings (spans sentences ++ fragment.tokens) oracle =
      warnings oracle 0 sentences ++ fragment.warnings oracle (spans sentences).length := by
  have here : (Session.start (spans sentences ++ fragment.tokens) oracle).rest =
      spans sentences ++ fragment.tokens := rfl
  rw [parseWarnings, program_of_fragment]
  change Session.warnings _ = _
  rw [Session.warnings_read fragment.filled (Session.rest_readAll here),
    Session.warnings_readAll here, Session.oracle_readAll, Session.position_readAll here,
    Session.position_start, Nat.zero_add]
  rfl

end Whole

end Scl

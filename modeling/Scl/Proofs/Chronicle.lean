import Scl.Log
import Scl.Proofs.Undeclared

/-! # What the log of a parse tells

A session notes an event when it enters a statement, when it passes a token and when it warns, and
it does nothing else. So the trace grows in three ways only, and each of them passes the next token
(`Told`): alone, behind the event of the statement that the token starts, or before the warning
about it. Every step of reading keeps this relation between the cursor, the warnings and the trace,
hence a parse ends in it, whether it succeeds or fails, and what a reader of the log relies on
follows by induction on the relation.
-/

namespace Scl

/-- The token that an event tells of, with its position, if it tells that a token was passed. -/
def Event.consumed? : Event → Option (String × Nat)
  | .consumed position value => some (value, position)
  | _ => none

/-- Where the statement starts, if an event tells of one. -/
def Event.started? : Event → Option Nat
  | .statement position _ _ => some position
  | _ => none

def Event.undeclared? : Event → Option Warning
  | .undeclared warning => some warning
  | _ => none

/-- The events tell how the cursor came to this position, with these warnings on the way. -/
inductive Told (tokens : List Token) : Nat → List Warning → List Event → Prop where
  | start : Told tokens 0 [] []
  /-- A statement was entered with its first token. -/
  | entered {position : Nat} {warnings : List Warning} {events : List Event} {first : Token}
      (before : Told tokens position warnings events) (here : tokens[position]? = some first) :
      Told tokens (position + 1) warnings
        (events ++ [.statement position first.value (Handler.lookup first.value),
          .consumed position first.value])
  /-- A token was passed, and nothing was found. -/
  | passed {position : Nat} {warnings : List Warning} {events : List Event} {token : Token}
      (before : Told tokens position warnings events) (here : tokens[position]? = some token) :
      Told tokens (position + 1) warnings (events ++ [.consumed position token.value])
  /-- A name was passed that is not declared. -/
  | warned {position : Nat} {warnings : List Warning} {events : List Event} {name : Token}
      (before : Told tokens position warnings events) (here : tokens[position]? = some name) :
      Told tokens (position + 1) (warnings ++ [⟨position, name.value⟩])
        (events ++ [.consumed position name.value, .undeclared ⟨position, name.value⟩])

/-- What can be read off the log of a run that stopped before the token at `stop`. -/
structure Faithful (tokens : List Token) (stop : Nat) (warnings : List Warning)
    (events : List Event) : Prop where
  /-- The tokens up to the cursor were passed in order, each of them once. -/
  consumed : events.filterMap Event.consumed? = ((tokens.take stop).map Token.value).zipIdx
  /-- Statements were met where statements start, each of them once. -/
  started : ∀ position,
    StatementStart tokens position ↔ position ∈ events.filterMap Event.started?
  ordered : (events.filterMap Event.started?).Pairwise (· < ·)
  /-- The event of a statement tells its first token and the handler of this token, and the next
  event is that this token was passed. -/
  entered : ∀ before position value handler after,
    events = before ++ .statement position value handler :: after →
      (∃ first, tokens[position]? = some first ∧ value = first.value) ∧
        handler = Handler.lookup value ∧ ∃ later, after = .consumed position value :: later
  /-- The warnings found were told in order, each of them once. -/
  undeclared : events.filterMap Event.undeclared? = warnings
  /-- The event before a warning is that the name in question was passed. -/
  reported : ∀ before warning after, events = before ++ .undeclared warning :: after →
    ∃ earlier, before = earlier ++ [.consumed warning.position warning.name]

namespace Told

variable {tokens : List Token} {position : Nat} {warnings : List Warning} {events : List Event}

theorem consumed (told : Told tokens position warnings events) :
    events.filterMap Event.consumed? = ((tokens.take position).map Token.value).zipIdx := by
  have extend {count : Nat} {token : Token} (here : tokens[count]? = some token) :
      ((tokens.take (count + 1)).map Token.value).zipIdx =
        ((tokens.take count).map Token.value).zipIdx ++ [(token.value, count)] := by
    obtain ⟨inside, rfl⟩ := List.getElem?_eq_some_iff.mp here
    have width : (tokens.take count).length = count := by
      rw [List.length_take]
      omega
    rw [List.take_add_one, here, List.map_append, List.zipIdx_append, List.length_map, width,
      Nat.zero_add]
    rfl
  induction told with
  | start => rfl
  | entered _ here ih | passed _ here ih | warned _ here ih =>
    rw [List.filterMap_append, ih, extend here]
    rfl

theorem undeclared (told : Told tokens position warnings events) :
    events.filterMap Event.undeclared? = warnings := by
  induction told with
  | start => rfl
  | entered _ _ ih | passed _ _ ih =>
    rw [List.filterMap_append, ih]
    exact List.append_nil _
  | warned _ _ ih =>
    rw [List.filterMap_append, ih]
    rfl

/-- Statements start before the cursor, and the later ones behind the earlier ones. -/
theorem ordered (told : Told tokens position warnings events) :
    (events.filterMap Event.started?).Pairwise (· < ·) ∧
      ∀ start ∈ events.filterMap Event.started?, start < position := by
  induction told with
  | start => exact ⟨.nil, nofun⟩
  | passed _ _ ih | warned _ _ ih =>
    rw [List.filterMap_append]
    simp only [List.filterMap_cons, List.filterMap_nil, Event.started?, List.append_nil]
    refine ⟨ih.1, fun start member => ?_⟩
    exact Nat.lt_succ_of_lt (ih.2 start member)
  | @entered position _ _ _ _ _ ih =>
    rw [List.filterMap_append]
    simp only [List.filterMap_cons, List.filterMap_nil, Event.started?]
    constructor
    · refine List.pairwise_append.mpr ⟨ih.1, List.pairwise_singleton .., ?_⟩
      intro start member last same
      rw [List.mem_singleton.mp same]
      exact ih.2 start member
    · intro start member
      rcases List.mem_append.mp member with earlier | last
      · exact Nat.lt_succ_of_lt (ih.2 start earlier)
      · rw [List.mem_singleton.mp last]
        exact Nat.lt_succ_self position

/-- An event of two lists in a row is in the first, with the second behind it, or in the second,
with the first before it. -/
theorem split_append {α : Type} {first second before after : List α} {entry : α}
    (split : first ++ second = before ++ entry :: after) :
    (∃ between, first = before ++ entry :: between ∧ after = between ++ second) ∨
      ∃ between, before = first ++ between ∧ second = between ++ entry :: after := by
  rcases List.append_eq_append_iff.mp split with ⟨between, rfl, rest⟩ | ⟨between, rfl, rest⟩
  · exact .inr ⟨between, rfl, rest⟩
  · cases between with
    | nil => exact .inr ⟨[], by simp, rest.symm⟩
    | cons head between =>
      obtain ⟨rfl, rfl⟩ := List.cons.inj rest
      exact .inl ⟨between, rfl, rfl⟩

theorem entered_followed (told : Told tokens position warnings events)
    {before after : List Event} {start : Nat} {value : String} {handler : Option Handler}
    (split : events = before ++ .statement start value handler :: after) :
    (∃ first, tokens[start]? = some first ∧ value = first.value) ∧
      handler = Handler.lookup value ∧ ∃ later, after = .consumed start value :: later := by
  induction told generalizing after with
  | start => simp at split
  | passed _ _ ih | warned _ _ ih =>
    rcases split_append split with ⟨between, earlier, rfl⟩ | ⟨between, _, last⟩
    · obtain ⟨there, found, later, rfl⟩ := ih earlier
      exact ⟨there, found, _, rfl⟩
    · have member : Event.statement start value handler ∈ between ++ _ :: after :=
        List.mem_append_right _ (List.mem_cons_self ..)
      rw [← last] at member
      simp at member
  | entered _ here ih =>
    rcases split_append split with ⟨between, earlier, rfl⟩ | ⟨between, _, last⟩
    · obtain ⟨there, found, later, rfl⟩ := ih earlier
      exact ⟨there, found, _, rfl⟩
    · match between, last with
      | [], last =>
        cases last
        exact ⟨⟨_, here, rfl⟩, rfl, [], rfl⟩
      | [_], last => simp at last
      | _ :: _ :: _, last => simp at last

theorem warned_preceded (told : Told tokens position warnings events)
    {before after : List Event} {warning : Warning}
    (split : events = before ++ .undeclared warning :: after) :
    ∃ earlier, before = earlier ++ [.consumed warning.position warning.name] := by
  induction told generalizing after with
  | start => simp at split
  | passed _ _ ih | entered _ _ ih =>
    rcases split_append split with ⟨between, earlier, rfl⟩ | ⟨between, _, last⟩
    · exact ih earlier
    · have member : Event.undeclared warning ∈ between ++ _ :: after :=
        List.mem_append_right _ (List.mem_cons_self ..)
      rw [← last] at member
      simp at member
  | warned _ _ ih =>
    rcases split_append split with ⟨between, earlier, rfl⟩ | ⟨between, rfl, last⟩
    · exact ih earlier
    · match between, last with
      | [], last => simp at last
      | [_], last =>
        cases last
        exact ⟨_, rfl⟩
      | _ :: _ :: _, last => simp at last

/-- What was told is a faithful log, as far as the statements in it are the right ones. -/
theorem faithful (told : Told tokens position warnings events)
    (started : ∀ start,
      StatementStart tokens start ↔ start ∈ events.filterMap Event.started?) :
    Faithful tokens position warnings events where
  consumed := told.consumed
  started := started
  ordered := told.ordered.1
  entered _ _ _ _ _ split := told.entered_followed split
  undeclared := told.undeclared
  reported _ _ _ split := told.warned_preceded split

end Told

namespace Session

theorem tokens_check (session : Session) (warning : Warning) :
    (session.check warning).tokens = session.tokens := by
  unfold check
  split <;> rfl

theorem tokens_take {session : Session} {token : Token} {rest : List Token}
    (next : session.rest = token :: rest) (slot : Slot) :
    (session.take slot).tokens = session.tokens := by
  have passed := tokens_pass next
  simp only [take, next]
  split
  · rw [tokens_check, passed]
  · exact passed

/-- A session over these tokens whose trace tells how it came where it is. -/
structure Tells (tokens : List Token) (session : Session) : Prop where
  tokens_eq : session.tokens = tokens
  told : Told tokens session.position session.warnings session.trace

namespace Tells

variable {tokens taken rest : List Token} {session : Session} {first token : Token}
  {slots : List Slot}

theorem start (tokens : List Token) (oracle : Option Oracle) :
    Tells tokens (Session.start tokens oracle) :=
  ⟨rfl, .start⟩

/-- The cursor stands before the next token. -/
theorem getElem?_position (tells : Tells tokens session) (next : session.rest = token :: rest) :
    tokens[session.position]? = some token := by
  rw [← tells.tokens_eq, Session.tokens, next, session.position_eq, ← List.length_reverse,
    List.getElem?_append_right (Nat.le_refl _), Nat.sub_self]
  rfl

theorem enter (tells : Tells tokens session) (next : session.rest = first :: rest) :
    Tells tokens (session.enter first rest) := by
  have kept : (session.enter first rest).tokens = session.tokens := tokens_pass next
  refine ⟨kept.trans tells.tokens_eq, ?_⟩
  have grown := tells.told.entered (tells.getElem?_position next)
  simp only [Session.enter, position_pass, position_note, warnings_pass, warnings_note, trace_pass,
    trace_note, List.append_assoc]
  exact grown

/-- A slot passes the token, and the oracle decides whether there is a warning about it. -/
theorem take (tells : Tells tokens session) (next : session.rest = token :: rest) (slot : Slot) :
    Tells tokens (session.take slot) := by
  constructor
  · exact (tokens_take next slot).trans tells.tokens_eq
  · rw [position_take next, warnings_take next, trace_take next, Slot.events, Slot.undeclared]
    split
    · exact tells.told.warned (tells.getElem?_position next)
    · rw [List.append_nil]
      exact tells.told.passed (tells.getElem?_position next)

theorem takeAll (tells : Tells tokens session) (filled : Slot.Filled slots taken)
    (here : session.rest = taken ++ rest) : Tells tokens (slots.foldl Session.take session) := by
  induction filled generalizing session with
  | nil => exact tells
  | @cons slot token slots taken _ _ ih => exact ih (tells.take here slot) (rest_take here slot)

theorem read (tells : Tells tokens session) (filled : Slot.Filled slots taken)
    (here : session.rest = first :: (taken ++ rest)) : Tells tokens (session.read first slots) := by
  have entered := tells.enter here
  have following : session.rest.tail = taken ++ rest := congrArg List.tail here
  rw [Session.read, following]
  exact entered.takeAll filled rfl

open Sentence in
theorem readAll {sentences : List Sentence} (tells : Tells tokens session)
    (here : session.rest = spans sentences ++ rest) : Tells tokens (session.readAll sentences) := by
  induction sentences generalizing session with
  | nil => exact tells
  | cons sentence sentences ih =>
    rw [spans_cons, List.cons_append, List.append_assoc] at here
    exact ih (tells.read sentence.filled here) (rest_read sentence.filled here)

end Tells

end Session

/-- The session in which a whole parse ends, whether it succeeds or not. -/
def parseEnd (tokens : List Token) (oracle : Option Oracle) : Session :=
  match Parsing.program (.start tokens oracle) with
  | .ok _ after => after
  | .error _ after => after

section Whole

open Sentence

variable (tokens : List Token) (oracle : Option Oracle)

theorem trace_parseEnd : (parseEnd tokens oracle).trace = parseTrace tokens oracle := by
  unfold parseEnd parseTrace
  cases Parsing.program (.start tokens oracle) <;> rfl

/-- The last session of a parse tells how it was reached. -/
theorem tells_parseEnd : Session.Tells tokens (parseEnd tokens oracle) := by
  have started := Session.Tells.start tokens oracle
  unfold parseEnd
  rcases exists_cut tokens with ⟨sentences, rfl⟩ | ⟨sentences, fragment, rfl⟩
  · rw [Parsing.program_of_sentences]
    exact started.readAll (List.append_nil _).symm
  · have here : (Session.start (spans sentences ++ fragment.tokens) oracle).rest =
        spans sentences ++ fragment.tokens := rfl
    rw [Parsing.program_of_fragment]
    exact (started.readAll here).read fragment.filled (Session.rest_readAll here)

/-- The cursor ends behind the last token, or before the token of the error. -/
theorem position_parseEnd :
    (∀ tree, parse tokens oracle = .ok tree → (parseEnd tokens oracle).position = tokens.length) ∧
      ∀ error, parse tokens oracle = .error error →
        (parseEnd tokens oracle).position = error.position := by
  unfold parse parseEnd
  rcases exists_cut tokens with ⟨sentences, rfl⟩ | ⟨sentences, fragment, rfl⟩
  · have here : (Session.start (spans sentences) oracle).rest = spans sentences ++ [] :=
      (List.append_nil _).symm
    rw [Parsing.program_of_sentences]
    refine ⟨fun _ _ => ?_, nofun⟩
    exact (Session.position_readAll here).trans (Nat.zero_add _)
  · have here : (Session.start (spans sentences ++ fragment.tokens) oracle).rest =
        spans sentences ++ fragment.tokens := rfl
    rw [Parsing.program_of_fragment]
    refine ⟨nofun, fun error failed => ?_⟩
    cases failed
    refine (Session.position_read fragment.filled (Session.rest_readAll here)).trans ?_
    rw [Session.position_readAll here, Session.position_start, Nat.zero_add, Nat.add_assoc]
    rfl

/-- A slot tells of no statement. -/
theorem Slot.started_eventsAll (position : Nat) (slots : List Slot) (taken : List Token) :
    (eventsAll oracle position slots taken).filterMap Event.started? = [] := by
  refine List.filterMap_eq_nil_iff.mpr fun event member => ?_
  cases event with
  | statement => exact (statement_not_mem_eventsAll member).elim
  | consumed | undeclared => rfl

theorem Sentence.length_started (position : Nat) (sentences : List Sentence) :
    ((collect (fun start sentence => sentence.events oracle start) position sentences).filterMap
      Event.started?).length = sentences.length := by
  induction sentences generalizing position with
  | nil => rfl
  | cons sentence sentences ih =>
    have one : (sentence.events oracle position).filterMap Event.started? = [position] := by
      simp only [events, List.filterMap_cons, Event.started?, Slot.started_eventsAll]
    rw [collect, List.filterMap_append, one, List.length_append, ih]
    exact Nat.add_comm ..

/-- As many statements are told of as the program has. -/
theorem length_started_parseTrace {tree : Tree} (success : parse tokens oracle = .ok tree) :
    ((parseTrace tokens oracle).filterMap Event.started?).length = tree.children.length := by
  rcases exists_cut tokens with ⟨sentences, rfl⟩ | ⟨sentences, fragment, rfl⟩
  · rw [parse_of_sentences] at success
    cases success
    rw [parseTrace_of_sentences, length_started, Tree.children_node, List.length_map]
  · rw [parse_of_fragment] at success
    cases success

theorem started_parseTrace_iff (start : Nat) :
    StatementStart tokens start ↔
      start ∈ (parseTrace tokens oracle).filterMap Event.started? := by
  rw [statementStart_iff_traced tokens oracle, List.mem_filterMap]
  constructor
  · rintro ⟨value, handler, member⟩
    exact ⟨_, member, rfl⟩
  · rintro ⟨event, member, told⟩
    cases event with
    | statement position value handler =>
      cases told
      exact ⟨value, handler, member⟩
    | consumed | undeclared => cases told

end Whole

namespace Log

/-- The most talkative filter writes every event. -/
theorem admits_ofEvent (event : Event) : (Filter.upTo .trace).admits (.ofEvent event) = true := by
  cases event <;> rfl

theorem message_statement (position : Nat) (value : String) :
    (Record.ofEvent (.statement position value (Handler.lookup value))).message =
      if Handler.lookup value = none then s!"unknown statement '{value}'"
      else s!"statement '{value}'" := by
  unfold Record.ofEvent
  cases Handler.lookup value with
  | none => exact (String.append_assoc ..).symm
  | some handler => exact (String.append_assoc ..).symm

end Log

/-- The log of a parse is faithful, whether the parse succeeds or fails: it tells of the tokens up
to the last cursor, of the statements that were started and of the warnings that were found, each
once and where it happened. A parse that succeeds has passed all tokens and told of as many
statements as the program has; one that fails stopped at its error. With everything switched on the
log has one record for each event, and a statement without a keyword is called unknown. -/
theorem parse_faithful (tokens : List Token) (oracle : Option Oracle) :
    let last := parseEnd tokens oracle
    Faithful tokens last.position last.warnings last.trace ∧
      (∀ tree, parse tokens oracle = .ok tree →
        last.position = tokens.length ∧
          (last.trace.filterMap Event.started?).length = tree.children.length) ∧
      (∀ error, parse tokens oracle = .error error → last.position = error.position) ∧
      (last.trace.map Log.Record.ofEvent).filter (Log.Filter.upTo .trace).admits =
        last.trace.map Log.Record.ofEvent ∧
      ∀ position value handler, .statement position value handler ∈ last.trace →
        (Log.Record.ofEvent (.statement position value handler)).message =
          if Handler.lookup value = none then s!"unknown statement '{value}'"
          else s!"statement '{value}'" := by
  intro last
  have trace : last.trace = parseTrace tokens oracle := trace_parseEnd tokens oracle
  obtain ⟨succeeded, failed⟩ := position_parseEnd tokens oracle
  have faithful : Faithful tokens last.position last.warnings last.trace := by
    refine (tells_parseEnd tokens oracle).told.faithful fun start => ?_
    rw [trace_parseEnd]
    exact started_parseTrace_iff tokens oracle start
  refine ⟨faithful, ?_, failed, ?_, ?_⟩
  · intro tree success
    refine ⟨succeeded tree success, ?_⟩
    rw [trace]
    exact length_started_parseTrace tokens oracle success
  · refine List.filter_eq_self.mpr fun record member => ?_
    obtain ⟨event, _, rfl⟩ := List.mem_map.mp member
    exact Log.admits_ofEvent event
  · intro position value handler member
    obtain ⟨before, after, split⟩ := List.append_of_mem member
    obtain ⟨_, rfl, _⟩ := faithful.entered before position value handler after split
    exact Log.message_statement position value

end Scl

import Scl.Proofs.Outcome

/-! # The trace of a parse

What a parse did is read off the cut of its tokens, as its result is: a sentence leaves the event
that it starts, then one event for each of its tokens, and after the token of an undeclared name
the event of the warning. A fragment leaves the same up to its unmet slot. Nothing else leaves an
event, so the trace tells where statements started in a run, even in one that failed.
-/

namespace Scl

namespace Slot

/-- The events of a slot that took a token. -/
def events (slot : Slot) (oracle : Option Oracle) (position : Nat) (token : Token) : List Event :=
  .consumed position token.value :: (slot.undeclared oracle position token).map .undeclared

/-- The events of slots that took tokens, the first of them at `position`. -/
def eventsAll (oracle : Option Oracle) : Nat → List Slot → List Token → List Event
  | position, slot :: slots, token :: tokens =>
    slot.events oracle position token ++ eventsAll oracle (position + 1) slots tokens
  | _, _, _ => []

/-- No statement starts inside of another one. -/
theorem statement_not_mem_eventsAll {oracle : Option Oracle} {position start : Nat}
    {slots : List Slot} {tokens : List Token} {value : String} {handler : Option Handler} :
    Event.statement start value handler ∉ eventsAll oracle position slots tokens := by
  intro member
  induction slots generalizing position tokens with
  | nil => cases member
  | cons slot slots ih =>
    cases tokens with
    | nil => cases member
    | cons token tokens =>
      rcases List.mem_append.mp member with here | later
      · simp [events] at here
      · exact ih later

end Slot

namespace Session

section Take

variable {session : Session} {first token : Token} {taken rest : List Token} {slots : List Slot}

theorem trace_check (session : Session) (warning : Warning) :
    (session.check warning).trace =
      session.trace ++
        if session.oracle.any (fun declared => !declared warning.name) = true then
          [.undeclared warning]
        else [] := by
  unfold check
  split
  · exact trace_warn session warning
  · exact (List.append_nil _).symm

theorem trace_take (next : session.rest = token :: rest) (slot : Slot) :
    (session.take slot).trace =
      session.trace ++ slot.events session.oracle session.position token := by
  have same : (session.pass token rest).oracle = session.oracle := rfl
  simp only [take, next, Slot.events, Slot.undeclared]
  by_cases declared : slot.shape = .declared
  · rw [if_pos declared, trace_check, trace_pass, same]
    by_cases unknown : session.oracle.any (fun declared => !declared token.value) = true
    · simp [declared, unknown]
    · simp [unknown]
  · simp [declared]

theorem trace_takeAll (filled : Slot.Filled slots taken) (here : session.rest = taken ++ rest) :
    (slots.foldl take session).trace =
      session.trace ++ Slot.eventsAll session.oracle session.position slots taken := by
  induction filled generalizing session with
  | nil => exact (List.append_nil _).symm
  | @cons slot token slots taken _ _ ih =>
    rw [List.foldl_cons, ih (rest_take here slot), trace_take here, oracle_take,
      position_take here, List.append_assoc]
    rfl

/-- The first token of a statement leaves two events, before those of its slots. -/
theorem trace_read (filled : Slot.Filled slots taken)
    (here : session.rest = first :: (taken ++ rest)) :
    (session.read first slots).trace =
      session.trace ++
        .statement session.position first.value (Handler.lookup first.value) ::
          .consumed session.position first.value ::
            Slot.eventsAll session.oracle (session.position + 1) slots taken := by
  have entered : (session.enter first session.rest.tail).rest = taken ++ rest := by
    rw [here]; rfl
  have later := trace_takeAll filled entered
  rw [read, later]
  simp only [enter, trace_pass, trace_note, position_note, position_pass, List.append_assoc]
  rfl

end Take

end Session

namespace Sentence

/-- What every sentence contributes, told from where it starts, from the first sentence on. -/
def collect {α : Type} (part : Nat → Sentence → List α) : Nat → List Sentence → List α
  | _, [] => []
  | position, sentence :: sentences =>
    part position sentence ++ collect part (position + sentence.span.length) sentences

section Collect

variable {α : Type} {part : Nat → Sentence → List α} {position : Nat} {sentences : List Sentence}

theorem length_spans_cons (sentence : Sentence) (sentences : List Sentence) :
    (spans (sentence :: sentences)).length = sentence.span.length + (spans sentences).length :=
  List.length_append

/-- A contribution is that of one sentence, at the position where this sentence starts. -/
theorem mem_collect_iff {entry : α} :
    entry ∈ collect part position sentences ↔
      ∃ earlier sentence later, sentences = earlier ++ sentence :: later ∧
        entry ∈ part (position + (spans earlier).length) sentence := by
  induction sentences generalizing position with
  | nil => simp [collect]
  | cons head tail ih =>
    rw [collect, List.mem_append, ih]
    constructor
    · rintro (here | ⟨earlier, sentence, later, rfl, there⟩)
      · exact ⟨[], head, tail, rfl, here⟩
      · refine ⟨head :: earlier, sentence, later, rfl, ?_⟩
        rwa [length_spans_cons, ← Nat.add_assoc]
    · rintro ⟨earlier, sentence, later, split, there⟩
      cases earlier with
      | nil =>
        obtain ⟨rfl, rfl⟩ := List.cons.inj split
        exact .inl there
      | cons other earlier =>
        obtain ⟨rfl, rfl⟩ := List.cons.inj split
        refine .inr ⟨earlier, sentence, later, rfl, ?_⟩
        rwa [length_spans_cons, ← Nat.add_assoc] at there

/-- Contributions that stay inside their sentences stay inside all of them. -/
theorem mem_collect_bounds {place : α → Nat}
    (inside : ∀ start sentence, ∀ entry ∈ part start sentence,
      start < place entry ∧ place entry < start + sentence.span.length) :
    ∀ entry ∈ collect part position sentences,
      position < place entry ∧ place entry < position + (spans sentences).length := by
  intro entry member
  obtain ⟨earlier, sentence, later, rfl, here⟩ := mem_collect_iff.mp member
  have bounds := inside _ _ _ here
  rw [spans_append, List.length_append, length_spans_cons]
  omega

/-- Contributions that are in order inside every sentence are in order. -/
theorem pairwise_collect {place : α → Nat}
    (inside : ∀ start sentence, ∀ entry ∈ part start sentence,
      start < place entry ∧ place entry < start + sentence.span.length)
    (sorted : ∀ start sentence,
      (part start sentence).Pairwise fun earlier later => place earlier < place later) :
    (collect part position sentences).Pairwise
      fun earlier later => place earlier < place later := by
  induction sentences generalizing position with
  | nil => exact .nil
  | cons sentence sentences ih =>
    refine List.pairwise_append.mpr ⟨sorted _ _, ih, ?_⟩
    intro entry here other there
    have bound := (inside _ _ _ here).2
    have otherBound := (mem_collect_bounds inside _ there).1
    exact Nat.lt_trans bound otherBound

end Collect

def events (oracle : Option Oracle) (position : Nat) (sentence : Sentence) : List Event :=
  .statement position sentence.first.value (Handler.lookup sentence.first.value) ::
    .consumed position sentence.first.value ::
      Slot.eventsAll oracle (position + 1) sentence.first.slots sentence.operands

theorem statement_mem_events_iff {oracle : Option Oracle} {position start : Nat}
    {sentence : Sentence} {value : String} {handler : Option Handler} :
    Event.statement start value handler ∈ sentence.events oracle position ↔
      start = position ∧ value = sentence.first.value ∧
        handler = Handler.lookup sentence.first.value := by
  simp [events, Slot.statement_not_mem_eventsAll]

theorem warnings_eq_collect (oracle : Option Oracle) (position : Nat) (sentences : List Sentence) :
    warnings oracle position sentences =
      collect (fun start sentence =>
        Slot.undeclaredAll oracle (start + 1) sentence.first.slots sentence.operands)
        position sentences := by
  induction sentences generalizing position with
  | nil => rfl
  | cons sentence sentences ih => rw [warnings, collect, ih]

end Sentence

def Fragment.events (fragment : Fragment) (oracle : Option Oracle) (position : Nat) : List Event :=
  .statement position fragment.first.value (Handler.lookup fragment.first.value) ::
    .consumed position fragment.first.value ::
      Slot.eventsAll oracle (position + 1) fragment.before fragment.taken

theorem Fragment.statement_mem_events_iff {oracle : Option Oracle} {position start : Nat}
    {fragment : Fragment} {value : String} {handler : Option Handler} :
    Event.statement start value handler ∈ fragment.events oracle position ↔
      start = position ∧ value = fragment.first.value ∧
        handler = Handler.lookup fragment.first.value := by
  simp [events, Slot.statement_not_mem_eventsAll]

open Sentence in
theorem Session.trace_readAll {session : Session} {sentences : List Sentence} {rest : List Token}
    (here : session.rest = spans sentences ++ rest) :
    (session.readAll sentences).trace =
      session.trace ++
        collect (fun position sentence => sentence.events session.oracle position)
          session.position sentences := by
  induction sentences generalizing session with
  | nil => exact (List.append_nil _).symm
  | cons sentence sentences ih =>
    rw [spans_cons, List.cons_append, List.append_assoc] at here
    have later := ih (Session.rest_read sentence.filled here)
    rw [Session.trace_read sentence.filled here, Session.oracle_read,
      Session.position_read sentence.filled here, List.append_assoc] at later
    refine later.trans ?_
    have width : sentence.span.length = 1 + sentence.operands.length :=
      Nat.add_comm ..
    rw [collect, width, Nat.add_assoc session.position 1]
    rfl

/-- The trace of a whole parse, whether it succeeds or not. -/
def parseTrace (tokens : List Token) (oracle : Option Oracle) : List Event :=
  match Parsing.program (.start tokens oracle) with
  | .ok _ after => after.trace
  | .error _ after => after.trace

section Whole

open Sentence

variable (sentences : List Sentence) (fragment : Fragment) (oracle : Option Oracle)

theorem parseTrace_of_sentences :
    parseTrace (spans sentences) oracle =
      collect (fun position sentence => sentence.events oracle position) 0 sentences := by
  have here : (Session.start (spans sentences) oracle).rest = spans sentences ++ [] :=
    (List.append_nil _).symm
  rw [parseTrace, Parsing.program_of_sentences]
  exact Session.trace_readAll here

theorem parseTrace_of_fragment :
    parseTrace (spans sentences ++ fragment.tokens) oracle =
      collect (fun position sentence => sentence.events oracle position) 0 sentences ++
        fragment.events oracle (spans sentences).length := by
  have here : (Session.start (spans sentences ++ fragment.tokens) oracle).rest =
      spans sentences ++ fragment.tokens := rfl
  rw [parseTrace, Parsing.program_of_fragment]
  change Session.trace _ = _
  rw [Session.trace_read fragment.filled (Session.rest_readAll here),
    Session.trace_readAll here, Session.oracle_readAll, Session.position_readAll here,
    Session.position_start, Nat.zero_add]
  rfl

end Whole

end Scl

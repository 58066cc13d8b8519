import Scl.Proofs.Json.Escape

/-! # Lexemes with blanks around them

A text of brackets, commas, colons and strings may have blanks before and behind each of them. What
a reader reads is stated on the lexemes alone: the blanks before the next one may have been skipped
(`Ahead`) or not (`Follows`). The members between two brackets are read one after the other, each
with what was read before it, which one lemma says for arrays and objects.
-/

namespace Scl.Json

open Reader

/-- The parts of a text that are no blanks. Numbers and literals are left out. -/
inductive Lexeme where
  | opening (bracket : Bracket)
  | closing (bracket : Bracket)
  | comma
  | colon
  | string (text : String)
  deriving DecidableEq

namespace Lexeme

def write : Lexeme → String
  | .opening .list => "["
  | .opening .object => "\x7b"
  | .closing .list => "]"
  | .closing .object => "\x7d"
  | .comma => ","
  | .colon => ":"
  | .string text => writeString text

def first : Lexeme → UInt8
  | .opening bracket => bracket.opening
  | .closing bracket => bracket.closing
  | .comma => Reader.comma
  | .colon => ':'.toUInt8
  | .string _ => quote

def others : Lexeme → List UInt8
  | .string text => escapedBytes text ++ [quote]
  | _ => []

theorem encodeUtf8_write (lexeme : Lexeme) :
    Text.encodeUtf8 lexeme.write = lexeme.first :: lexeme.others := by
  cases lexeme with
  | opening bracket => cases bracket <;> decide
  | closing bracket => cases bracket <;> decide
  | comma => decide
  | colon => decide
  | string text => exact encodeUtf8_writeString text

theorem not_isBlank_first (lexeme : Lexeme) : isBlank lexeme.first = false := by
  cases lexeme with
  | opening bracket => cases bracket <;> decide
  | closing bracket => cases bracket <;> decide
  | comma => decide
  | colon => decide
  | string text => rfl

end Lexeme

def Blank (gap : String) : Prop :=
  ∀ c ∈ gap.toList, c = ' ' ∨ c = '\t' ∨ c = '\n' ∨ c = '\r'

/-- A text is made of these lexemes, with blanks before, between and behind them. -/
inductive Spaced : List Lexeme → String → Prop where
  | nil {gap : String} (blank : Blank gap) : Spaced [] gap
  | cons {lexeme : Lexeme} {lexemes : List Lexeme} {gap text : String} (blank : Blank gap)
    (following : Spaced lexemes text) : Spaced (lexeme :: lexemes) (gap ++ lexeme.write ++ text)

/-- Lexemes as text without blanks. -/
def unspaced (lexemes : List Lexeme) : String :=
  String.join (lexemes.map Lexeme.write)

theorem unspaced_cons (lexeme : Lexeme) (lexemes : List Lexeme) :
    unspaced (lexeme :: lexemes) = lexeme.write ++ unspaced lexemes :=
  String.join_cons

theorem unspaced_append (lexemes others : List Lexeme) :
    unspaced (lexemes ++ others) = unspaced lexemes ++ unspaced others := by
  rw [unspaced, List.map_append, String.join_append, unspaced, unspaced]

theorem unspaced_singleton (lexeme : Lexeme) : unspaced [lexeme] = lexeme.write := by
  rw [unspaced_cons]
  exact String.append_empty

theorem blank_empty : Blank "" := by
  intro c member
  cases member

theorem spaced_unspaced (lexemes : List Lexeme) : Spaced lexemes (unspaced lexemes) := by
  induction lexemes with
  | nil => exact .nil blank_empty
  | cons lexeme lexemes ih =>
    have spaced : Spaced (lexeme :: lexemes) ("" ++ lexeme.write ++ unspaced lexemes) :=
      .cons blank_empty ih
    rwa [String.empty_append, ← unspaced_cons] at spaced

theorem isBlank_of_mem_encodeUtf8 {gap : String} (blank : Blank gap) {byte : UInt8}
    (member : byte ∈ Text.encodeUtf8 gap) : isBlank byte = true := by
  obtain ⟨c, inGap, inBytes⟩ := List.mem_flatMap.mp member
  rcases blank c inGap with rfl | rfl | rfl | rfl
  all_goals
    obtain rfl := List.mem_singleton.mp inBytes
    decide

/-- The bytes to come are lexemes with blanks around them. -/
def Follows (lexemes : List Lexeme) (bytes : List UInt8) : Prop :=
  ∃ text, Spaced lexemes text ∧ bytes = Text.encodeUtf8 text

/-- The bytes to come are a lexeme without blanks before it, and then lexemes. -/
def Ahead (lexeme : Lexeme) (lexemes : List Lexeme) (bytes : List UInt8) : Prop :=
  ∃ rest, Follows lexemes rest ∧ bytes = lexeme.first :: lexeme.others ++ rest

/-- The bytes to come are those of a string behind its opening quote, and then lexemes. -/
def Inside (text : String) (lexemes : List Lexeme) (bytes : List UInt8) : Prop :=
  ∃ rest, Follows lexemes rest ∧ bytes = escapedBytes text ++ quote :: rest

section Lexemes

variable {lexeme : Lexeme} {lexemes : List Lexeme} {text : String}

theorem Follows.of_ahead {bytes : List UInt8} (ahead : Ahead lexeme lexemes bytes) :
    Follows (lexeme :: lexemes) bytes := by
  obtain ⟨_, ⟨text, spaced, rfl⟩, rfl⟩ := ahead
  refine ⟨_, .cons blank_empty spaced, ?_⟩
  rw [String.empty_append, Text.encodeUtf8_append, Lexeme.encodeUtf8_write]

theorem reads_blanks_of_follows :
    Reads (Follows (lexeme :: lexemes)) blanks (some lexeme.first) (Ahead lexeme lexemes) := by
  rintro input ⟨_, spaced, bytes⟩
  cases spaced with
  | @cons _ _ gap text blank following =>
    rw [Text.encodeUtf8_append, Text.encodeUtf8_append, Lexeme.encodeUtf8_write,
      List.append_assoc] at bytes
    have stops : ∀ byte ∈ (lexeme.first :: lexeme.others ++ Text.encodeUtf8 text).head?,
        isBlank byte = false := by
      intro byte here
      cases here
      exact lexeme.not_isBlank_first
    obtain ⟨last, ran, rest⟩ :=
      reads_blanks (fun _ => isBlank_of_mem_encodeUtf8 blank) stops input bytes
    exact ⟨last, ran, _, ⟨text, following, rfl⟩, rest⟩

theorem reads_blanks_of_end : Reads (Follows []) blanks none (· = []) := by
  rintro input ⟨_, spaced, bytes⟩
  cases spaced with
  | nil blank =>
    rw [← List.append_nil (Text.encodeUtf8 _)] at bytes
    exact reads_blanks (fun _ => isBlank_of_mem_encodeUtf8 blank) (by simp) input bytes

theorem reads_need :
    Reads (Follows (lexeme :: lexemes)) need lexeme.first (Ahead lexeme lexemes) :=
  reads_blanks_of_follows.bind (.pure _)

theorem reads_skip_mark (single : lexeme.others = []) :
    Reads (Ahead lexeme lexemes) skip () (Follows lexemes) := by
  rintro input ⟨rest, follows, bytes⟩
  rw [single] at bytes
  obtain ⟨last, ran, rfl⟩ := reads_skip input bytes
  exact ⟨last, ran, follows⟩

theorem reads_skip_quote :
    Reads (Ahead (.string text) lexemes) skip () (Inside text lexemes) := by
  rintro input ⟨rest, follows, bytes⟩
  obtain ⟨last, ran, same⟩ := reads_skip input bytes
  refine ⟨last, ran, rest, follows, ?_⟩
  exact same.trans (List.append_assoc ..)

theorem reads_string_inside : Reads (Inside text lexemes) string text (Follows lexemes) := by
  rintro input ⟨rest, follows, bytes⟩
  obtain ⟨last, ran, rfl⟩ := reads_string text input bytes
  exact ⟨last, ran, follows⟩

theorem reads_peek_ahead :
    Reads (Ahead lexeme lexemes) peek (some lexeme.first) (Ahead lexeme lexemes) := by
  rintro input ⟨rest, follows, bytes⟩
  obtain ⟨last, ran, same⟩ := reads_peek input bytes
  exact ⟨last, ran, rest, follows, same⟩

theorem reads_colon : Reads (Follows (.colon :: lexemes)) colon () (Follows lexemes) := by
  refine reads_blanks_of_follows.bind ?_
  exact reads_skip_mark rfl

theorem reads_text :
    Reads (Follows (.string text :: lexemes)) Reader.text text (Follows lexemes) := by
  refine reads_need.bind ?_
  exact reads_skip_quote.bind reads_string_inside

end Lexemes

section Brackets

variable {bracket : Bracket} {lexeme : Lexeme} {lexemes : List Lexeme}

theorem reads_close :
    Reads (Follows (.closing bracket :: lexemes)) (close bracket) () (Follows lexemes) := by
  cases bracket with
  | list => exact reads_blanks_of_follows.bind (reads_skip_mark rfl)
  | object => exact reads_blanks_of_follows.bind (reads_skip_mark rfl)

/-- A body that is read up to the closing bracket is read between the brackets. -/
theorem reads_within {α : Type} {body : Reader α} {answer : α} {others : List Lexeme}
    (reads : Reads (Follows lexemes) body answer (Follows (.closing bracket :: others))) :
    Reads (Ahead (.opening bracket) lexemes) (within bracket body) answer (Follows others) := by
  refine (reads_skip_mark rfl).bind ?_
  refine reads.attempt.bind ?_
  exact reads_close.attempt.bind (.pure _)

theorem reads_startsMember (starts : lexeme.first ≠ bracket.closing) :
    Reads (Follows (lexeme :: lexemes)) (startsMember bracket) true (Ahead lexeme lexemes) := by
  refine reads_blanks_of_follows.bind ?_
  simp only [starts, ne_eq, not_false_eq_true, decide_true]
  exact .pure _

theorem reads_startsMember_closing :
    Reads (Follows (.closing bracket :: lexemes)) (startsMember bracket) false
      (Ahead (.closing bracket) lexemes) := by
  refine reads_blanks_of_follows.bind ?_
  simp only [Lexeme.first, ne_eq, not_true_eq_false, decide_false]
  exact .pure _

theorem reads_startsNextMember (starts : lexeme.first ≠ bracket.closing) :
    Reads (Follows (.comma :: lexeme :: lexemes)) (startsNextMember bracket) true
      (Ahead lexeme lexemes) := by
  have notClosing : Lexeme.comma.first ≠ bracket.closing := by cases bracket <;> decide
  have after :
      Reads (Follows (lexeme :: lexemes)) (afterComma bracket) () (Ahead lexeme lexemes) := by
    refine reads_blanks_of_follows.bind ?_
    simp only [starts, if_false]
    exact .pure _
  refine reads_blanks_of_follows.bind ?_
  simp only [notClosing, if_false]
  exact (reads_skip_mark rfl).bind (after.bind (.pure _))

theorem reads_startsNextMember_closing :
    Reads (Follows (.closing bracket :: lexemes)) (startsNextMember bracket) false
      (Ahead (.closing bracket) lexemes) := by
  refine reads_blanks_of_follows.bind ?_
  simp only [Lexeme.first, if_true]
  exact .pure _

variable {σ : Type}

/-- Members that are read one after the other, each from the state that the one before it left. A
member does not start like the closing bracket. -/
inductive Chain (bracket : Bracket) (member : σ → Reader σ) :
    σ → List (List Lexeme) → σ → Prop where
  | nil {state : σ} : Chain bracket member state [] state
  | cons {state between last : σ} {lexeme : Lexeme} {lexemes : List Lexeme}
    {parts : List (List Lexeme)} (starts : lexeme.first ≠ bracket.closing)
    (reads : ∀ others,
      Reads (Ahead lexeme (lexemes ++ others)) (member state) between (Follows others))
    (later : Chain bracket member between parts last) :
    Chain bracket member state ((lexeme :: lexemes) :: parts) last

/-- Parts with a comma between neighbours. -/
def separated : List (List Lexeme) → List Lexeme
  | [] => []
  | part :: parts => part ++ parts.flatMap (.comma :: ·)

/-- The part in front is not among `parts`, so that the induction can move on to the next one. -/
theorem unspaced_append_flatMap (part : List Lexeme) (parts : List (List Lexeme)) :
    unspaced (part ++ parts.flatMap (.comma :: ·)) =
      ",".intercalate ((part :: parts).map unspaced) := by
  induction parts generalizing part with
  | nil => simp
  | cons next parts ih =>
    rw [List.flatMap_cons, List.cons_append, unspaced_append, unspaced_cons, ih, List.map_cons,
      List.map_cons, List.map_cons, String.intercalate_cons_cons, String.append_assoc]
    rfl

theorem unspaced_separated (parts : List (List Lexeme)) :
    unspaced (separated parts) = ",".intercalate (parts.map unspaced) := by
  cases parts with
  | nil => rfl
  | cons part parts => exact unspaced_append_flatMap part parts

/-- Parts with commas between them and brackets around them. -/
def bracketed (bracket : Bracket) (parts : List (List Lexeme)) : List Lexeme :=
  .opening bracket :: (separated parts ++ [.closing bracket])

theorem bracketed_append (bracket : Bracket) (parts : List (List Lexeme)) (others : List Lexeme) :
    bracketed bracket parts ++ others =
      .opening bracket :: (separated parts ++ .closing bracket :: others) := by
  simp only [bracketed, List.cons_append, List.append_assoc, List.nil_append]

theorem unspaced_bracketed (bracket : Bracket) (parts : List (List Lexeme)) :
    unspaced (bracketed bracket parts) =
      (Lexeme.opening bracket).write ++ ",".intercalate (parts.map unspaced) ++
        (Lexeme.closing bracket).write := by
  rw [bracketed, unspaced_cons, unspaced_append, unspaced_separated, unspaced_singleton,
    String.append_assoc]

variable {member : σ → Reader σ} {state last : σ} {parts : List (List Lexeme)}

/-- The members behind the first one, by induction on them. -/
theorem reads_nextMembers (chain : Chain bracket member state parts last) (others : List Lexeme) :
    Reads (Follows (parts.flatMap (.comma :: ·) ++ .closing bracket :: others))
      (nextMembers bracket member state) last (Follows (.closing bracket :: others)) := by
  induction chain with
  | @nil state =>
    refine .of_run_eq (run_nextMembers bracket member state) ?_
    refine reads_startsNextMember_closing.bind ?_
    simp only [Bool.false_eq_true, if_false]
    exact (Reads.pure state).weaken fun _ => Follows.of_ahead
  | @cons state between last lexeme lexemes parts starts reads later ih =>
    refine .of_run_eq (run_nextMembers bracket member state) ?_
    simp only [List.flatMap_cons, List.cons_append, List.append_assoc]
    refine (reads_startsNextMember starts).bind ?_
    simp only [if_true]
    exact (reads _).bind ih

/-- Members between two brackets are read up to the closing one. -/
theorem reads_members (chain : Chain bracket member state parts last) (others : List Lexeme) :
    Reads (Follows (separated parts ++ .closing bracket :: others))
      (members bracket member state) last (Follows (.closing bracket :: others)) := by
  cases chain with
  | nil =>
    refine reads_startsMember_closing.bind ?_
    simp only [Bool.false_eq_true, if_false]
    exact (Reads.pure state).weaken fun _ => Follows.of_ahead
  | @cons _ between _ lexeme lexemes parts starts reads later =>
    simp only [separated, List.cons_append, List.append_assoc]
    refine (reads_startsMember starts).bind ?_
    simp only [if_true]
    exact (reads _).bind (reads_nextMembers later others)

end Brackets

end Scl.Json

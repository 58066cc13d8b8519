import Mathlib.Data.List.Forall2
import Scl.Load
import Scl.Proofs.Json.Lexeme

/-! # Token files are read as they are written

An array is read once each of its items is read from the forms in which it may be written
(`Readable`), from a text and from a stream alike. A name has one form. A token has several: its
members in either order, its kind in capital or in small letters, or the array of its two values.
Every token of a file may have its own form, and blanks may stand around any lexeme; the array of
the written tokens is the file without blanks in which every token has the first form.
-/

namespace Scl.Json

open Reader

section Array

variable {α : Type} {item : Reader α} {Written : α → List Lexeme → Prop} {items : List α}
  {forms : List (List Lexeme)}

/-- A text is an array of items, each written in some form, with blanks around any lexeme. -/
def IsArray (Written : α → List Lexeme → Prop) (items : List α) (text : String) : Prop :=
  ∃ forms, List.Forall₂ Written items forms ∧ Spaced (bracketed .list forms) text

/-- An item is read from each form in which it may be written. No form starts like the end of an
array. -/
structure Readable (item : Reader α) (Written : α → List Lexeme → Prop) : Prop where
  starts : ∀ {answer form}, Written answer form →
    ∃ lexeme lexemes, form = lexeme :: lexemes ∧ lexeme.first ≠ Bracket.closing .list
  reads : ∀ {answer form}, Written answer form → ∀ others,
    Reads (Follows (form ++ others)) item answer (Follows others)

/-- Items are read one after the other and kept with the latest first. -/
theorem Readable.chain (readable : Readable item Written)
    (written : List.Forall₂ Written items forms) (earlier : List α) :
    Chain .list (fun items => return (← item) :: items) earlier forms
      (items.reverse ++ earlier) := by
  induction written generalizing earlier with
  | nil => exact .nil
  | @cons answer form items forms first written ih =>
    obtain ⟨lexeme, lexemes, rfl, starts⟩ := readable.starts first
    rw [List.reverse_cons, List.append_assoc]
    refine .cons starts ?_ (ih (answer :: earlier))
    intro others
    exact ((readable.reads first others).weaken fun _ => Follows.of_ahead).bind (.pure _)

theorem Readable.document (readable : Readable item Written)
    (written : List.Forall₂ Written items forms) :
    Reads (Follows (bracketed .list forms)) (document item) items (· = []) := by
  have array : Reads (Follows (bracketed .list forms)) (listOf item) items (Follows []) := by
    have reversed := reads_members (readable.chain written []) []
    refine reads_need.bind ?_
    simp only [Lexeme.first, if_true]
    refine (reads_within reversed).bind ?_
    simp only [List.append_nil, List.reverse_reverse]
    exact .pure items
  refine array.bind ?_
  exact reads_blanks_of_end.bind (.pure items)

/-- An array is loaded from a text and from a stream alike. -/
theorem Readable.load (readable : Readable item Written) (source : Source) {text : String}
    (isArray : IsArray Written items text) :
    Load.items item source (Text.encodeUtf8 text) = .ok items := by
  obtain ⟨forms, written, spaced⟩ := isArray
  obtain ⟨last, ran, _⟩ :=
    readable.document written (.ofBytes source (Text.encodeUtf8 text)) ⟨text, spaced, rfl⟩
  rw [Load.items, readDocument, ran]
  rfl

end Array

/-- A name of a kind, in capital or in small letters. -/
def Spells (name : String) (kind : Token.Kind) : Prop :=
  name = kind.capitalName ∨ name = kind.name

/-- A member of an object whose value is a string. -/
def member (name value : String) : List Lexeme :=
  [.string name, .colon, .string value]

/-- The forms in which a token may be written. -/
inductive Form (token : Token) : List Lexeme → Prop where
  /-- An object, with the kind first. -/
  | kindFirst {name : String} (spells : Spells name token.kind) :
    Form token (bracketed .object [member "type" name, member "value" token.value])
  /-- An object, with the value first. -/
  | valueFirst {name : String} (spells : Spells name token.kind) :
    Form token (bracketed .object [member "value" token.value, member "type" name])
  /-- The array of kind and value. -/
  | pair {name : String} (spells : Spells name token.kind) :
    Form token (bracketed .list [[.string name], [.string token.value]])

/-- A text is an array of tokens, each in some form, with blanks around any lexeme. -/
def IsTokenFile (tokens : List Token) (text : String) : Prop :=
  IsArray Form tokens text

def writeTokens (tokens : List Token) : String :=
  "[" ++ ",".intercalate (tokens.map writeToken) ++ "]"

section Token

variable {token : Token} {name value : String} {lexemes : List Lexeme} {kind : Token.Kind}
  {fields : TokenFields}

theorem Spells.ofName?_eq (spells : Spells name kind) : Token.Kind.ofName? name = some kind := by
  rcases spells with rfl | rfl
  · exact Token.Kind.ofName?_capitalName kind
  · exact Token.Kind.ofName?_name kind

theorem reads_kind (spells : Spells name kind) :
    Reads (Follows (.string name :: lexemes)) Reader.kind kind (Follows lexemes) := by
  refine reads_need.bind ?_
  refine reads_skip_quote.bind ?_
  refine reads_string_inside.bind ?_
  simp only [kindOfName, spells.ofName?_eq]
  exact .pure kind

theorem reads_tokenMember_type (missing : fields.kind = none) (spells : Spells name kind) :
    Reads (Ahead (.string "type") (.colon :: .string name :: lexemes)) (tokenMember fields)
      { fields with kind := some kind } (Follows lexemes) := by
  refine reads_peek_ahead.bind ?_
  refine reads_skip_quote.bind ?_
  refine reads_string_inside.bind ?_
  simp only [missing, if_true, Option.isSome_none, Bool.false_eq_true, if_false]
  refine reads_colon.bind ?_
  exact (reads_kind spells).bind (.pure _)

theorem reads_tokenMember_value (missing : fields.value = none) :
    Reads (Ahead (.string "value") (.colon :: .string value :: lexemes)) (tokenMember fields)
      { fields with value := some value } (Follows lexemes) := by
  refine reads_peek_ahead.bind ?_
  refine reads_skip_quote.bind ?_
  refine reads_string_inside.bind ?_
  have other : "value" ≠ "type" := by decide
  simp only [other, missing, if_true, Option.isSome_none, Bool.false_eq_true, if_false]
  refine reads_colon.bind ?_
  exact reads_text.bind (.pure _)

/-- An object is read as a token if its members give both fields. -/
theorem reads_token_of_members {parts : List (List Lexeme)}
    (chain : Chain .object tokenMember ⟨none, none⟩ parts ⟨some token.kind, some token.value⟩) :
    Reads (Follows (bracketed .object parts ++ lexemes)) Reader.token token (Follows lexemes) := by
  have notList : Bracket.opening .object ≠ Bracket.opening .list := by decide
  rw [bracketed_append]
  refine reads_need.bind ?_
  simp only [Lexeme.first, notList, if_false, if_true]
  exact reads_within ((reads_members chain lexemes).bind (.pure token))

/-- A token is read from each of its forms. -/
theorem reads_token {form : List Lexeme} (written : Form token form) :
    Reads (Follows (form ++ lexemes)) Reader.token token (Follows lexemes) := by
  have inObject : quote ≠ Bracket.closing .object := by decide
  have inList {text : String} : (Lexeme.string text).first ≠ Bracket.closing .list := by
    change quote ≠ _
    decide
  cases written with
  | kindFirst spells =>
    apply reads_token_of_members
    refine .cons inObject (fun _ => reads_tokenMember_type rfl spells) ?_
    exact .cons inObject (fun _ => reads_tokenMember_value rfl) .nil
  | valueFirst spells =>
    apply reads_token_of_members
    refine .cons inObject (fun _ => reads_tokenMember_value rfl) ?_
    exact .cons inObject (fun _ => reads_tokenMember_type rfl spells) .nil
  | pair spells =>
    rw [bracketed_append]
    refine reads_need.bind ?_
    simp only [Lexeme.first, if_true]
    apply reads_within
    refine (reads_startsMember inList).bind ?_
    refine ((reads_kind spells).weaken fun _ => Follows.of_ahead).bind ?_
    refine (reads_startsNextMember inList).bind ?_
    exact (reads_text.weaken fun _ => Follows.of_ahead).bind (.pure token)

end Token

theorem readable_token : Readable Reader.token Form where
  starts := by
    have starts (bracket : Bracket) : bracket.opening ≠ Bracket.closing .list := by
      cases bracket <;> decide
    rintro token _ (_ | _ | _)
    · exact ⟨_, _, rfl, starts .object⟩
    · exact ⟨_, _, rfl, starts .object⟩
    · exact ⟨_, _, rfl, starts .list⟩
  reads written _ := reads_token written

section Written

/-- The form that is written: an object with the kind first, in capital letters. -/
def writtenForm (token : Token) : List Lexeme :=
  bracketed .object [member "type" token.kind.capitalName, member "value" token.value]

theorem unspaced_member (name value : String) :
    unspaced (member name value) = writeString name ++ ":" ++ writeString value := by
  rw [member, unspaced_cons, unspaced_cons, unspaced_singleton, String.append_assoc]
  rfl

theorem unspaced_writtenForm (token : Token) : unspaced (writtenForm token) = writeToken token := by
  have start : "\x7b\"type\":" = "\x7b" ++ writeString "type" ++ ":" := by decide
  have between : ",\"value\":" = "," ++ writeString "value" ++ ":" := by decide
  simp only [writtenForm, writeToken, start, between, unspaced_bracketed, unspaced_member,
    List.map_cons, List.map_nil, String.intercalate_cons_cons, String.intercalate_singleton,
    Lexeme.write, String.append_assoc]

theorem isTokenFile_writeTokens (tokens : List Token) :
    IsTokenFile tokens (writeTokens tokens) := by
  refine ⟨tokens.map writtenForm, ?_, ?_⟩
  · rw [List.forall₂_map_right_iff, List.forall₂_same]
    intro token _
    exact .kindFirst (.inl rfl)
  · have each : unspaced ∘ writtenForm = writeToken := by
      funext token
      rw [Function.comp_apply, unspaced_writtenForm]
    have written : unspaced (bracketed .list (tokens.map writtenForm)) = writeTokens tokens := by
      rw [unspaced_bracketed, List.map_map, each]
      rfl
    rw [← written]
    exact spaced_unspaced _

end Written

/-- Tokens are loaded from the array of their written forms, and from every array in which each
token has some form and blanks stand around the lexemes, be it a text or the bytes of a stream. -/
theorem tokens_of_written (tokens : List Token) :
    (Load.tokensOfText (writeTokens tokens) = .ok tokens ∧
      Load.tokensOfStream (Text.encodeUtf8 (writeTokens tokens)) = .ok tokens) ∧
    ∀ text, IsTokenFile tokens text →
      Load.tokensOfText text = .ok tokens ∧
        Load.tokensOfStream (Text.encodeUtf8 text) = .ok tokens := by
  have written := isTokenFile_writeTokens tokens
  refine ⟨⟨readable_token.load .text written, readable_token.load .stream written⟩, ?_⟩
  intro text isFile
  exact ⟨readable_token.load .text isFile, readable_token.load .stream isFile⟩

theorem tokens_of_written_mixed_forms :
    let tokens : List Token := [⟨.keyword, "exit"⟩, ⟨.string, "\"\\\x01𝄞"⟩]
    let text :=
      " [\x7b\"value\": \"exit\",\n\"type\":\"keyword\"\x7d , [\"STRING\",\"\\\"\\\\\\u0001𝄞\"]]\n"
    IsTokenFile tokens text ∧ Load.tokensOfText text = .ok tokens ∧
      Load.tokensOfStream (Text.encodeUtf8 text) = .ok tokens := by
  intro tokens text
  let object := bracketed .object [member "value" "exit", member "type" "keyword"]
  let list := bracketed .list [[.string "STRING"], [.string "\"\\\x01𝄞"]]
  have written : List.Forall₂ Form tokens [object, list] :=
    .cons (.valueFirst (.inr rfl)) (.cons (.pair (.inl rfl)) .nil)
  have tight := blank_empty
  have space : Blank " " := by
    intro c member
    exact .inl (List.mem_singleton.mp member)
  have line : Blank "\n" := by
    intro c member
    exact .inr (.inr (.inl (List.mem_singleton.mp member)))
  obtain ⟨copy, spaced, same⟩ :
      ∃ copy, Spaced (bracketed .list [object, list]) copy ∧ copy = text := by
    refine ⟨_, .cons space (.cons tight (.cons tight (.cons tight (.cons space (.cons tight
      (.cons line (.cons tight (.cons tight (.cons tight (.cons space (.cons space (.cons tight
      (.cons tight (.cons tight (.cons tight (.cons tight (.nil line))))))))))))))))), ?_⟩
    decide
  have isFile : IsTokenFile tokens text := ⟨[object, list], written, same ▸ spaced⟩
  exact ⟨isFile, (tokens_of_written tokens).2 text isFile⟩

end Scl.Json

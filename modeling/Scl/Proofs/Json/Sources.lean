import Scl.Load
import Scl.Proofs.Json.NestingAgreement

/-! # A text and a stream give the same tokens

A token file may be given as a text or as a stream of bytes. The two are read in different ways: a
text is trusted, a stream is checked, and each has its own account of where it is. For the bytes of
one text the outcome is the same all the same, up to the position of a fault.
-/

namespace Scl.Json.Reader

open Text (IsText IsTextEnd)

variable {α : Type} {late : Prop} {byte : UInt8}

section Document

/-- A string is read alike from its opening quote on. -/
theorem agrees_skip_string :
    Agrees late (At (some quote)) (skip >>= fun _ => string) fun _ => IsTextEnd :=
  agrees_skip_quote.bind fun _ => agrees_string.mono (fun _ => id) fun _ _ => IsText.isTextEnd

theorem agrees_found : Agrees late (At (some byte)) (found byte) fun _ => IsTextEnd := by
  rw [found]
  split
  · exact agrees_skip.bind fun _ => (steady_word _).bind fun _ => steady_pure _
  split
  · exact agrees_skip.bind fun _ => (steady_word _).bind fun _ => steady_pure _
  split
  · exact agrees_skip.bind fun _ => (steady_word _).bind fun _ => steady_pure _
  split
  · exact agrees_skip.bind fun _ => steady_number true
  split
  · exact (steady_number false).weaken fun _ => At.isTextEnd
  split
  · next same =>
    subst same
    refine agrees_skip_quote.bind fun _ => agrees_string.bind fun text => ?_
    exact agrees_pure fun _ => IsText.isTextEnd
  split
  · exact agrees_pure fun _ => At.isTextEnd
  split
  · exact agrees_pure fun _ => At.isTextEnd
  · exact agrees_failAhead

theorem agrees_mismatch (wanted : String) {after : α → List UInt8 → Prop} :
    Agrees late (At (some byte)) (mismatch byte wanted) after :=
  agrees_found.bind fun _ => agrees_fail

theorem steady_text : Steady late text := by
  refine agrees_need.bind fun byte => ?_
  split
  · next same =>
    subst same
    exact agrees_skip_string
  · exact agrees_mismatch _

theorem steady_listOf {item : Reader α} (each : Steady True item) : Steady late (listOf item) := by
  refine agrees_need.bind fun byte => ?_
  split
  · have members : Steady True (members .list (fun items => return (← item) :: items) []) :=
      steady_members (fun items => each.bind fun _ => steady_pure _) []
    exact ((steady_within members).bind fun _ => steady_pure _).weaken fun _ => At.isTextEnd
  · exact agrees_mismatch _

theorem steady_document {item : Reader α} (each : Steady True item) :
    Steady late (document item) := by
  refine (steady_listOf each).bind fun items => ?_
  refine agrees_blanks.bind fun head => ?_
  cases head with
  | none => exact agrees_pure fun _ => At.isTextEnd
  | some byte => exact agrees_failAhead

end Document

section Token

theorem agrees_kindOfName {before : List UInt8 → Prop} (name : String) :
    Agrees late before (kindOfName name) fun _ => before := by
  rw [kindOfName]
  split
  · exact agrees_pure fun _ => id
  · exact agrees_fail

theorem steady_kind : Steady late kind := by
  refine agrees_need.bind fun byte => ?_
  split
  · next same =>
    subst same
    refine agrees_skip_quote.bind fun _ => agrees_string.bind fun name => ?_
    exact (agrees_kindOfName name).mono (fun _ => id) fun _ _ => IsText.isTextEnd
  split
  · refine agrees_skip.bind fun _ => ?_
    refine agrees_blanks.bind fun head => ?_
    cases head with
    | none => exact agrees_stop agrees_failAhead
    | some byte =>
      dsimp only
      refine agrees_unless agrees_failAhead fun _ => ?_
      refine agrees_unless agrees_failAhead fun isQuote => ?_
      obtain rfl := Decidable.not_not.mp isQuote
      refine agrees_skip_quote.bind fun _ => agrees_string.bind fun name => ?_
      refine (agrees_kindOfName name).bind fun kind => ?_
      refine (steady_colon.weaken fun _ => IsText.isTextEnd).bind fun _ => ?_
      refine agrees_need.bind fun byte => ?_
      refine agrees_unless (agrees_mismatch _) fun _ => ?_
      refine agrees_skip.bind fun _ => (steady_word _).bind fun _ => ?_
      refine agrees_blanks.bind fun head => ?_
      cases head with
      | none => exact agrees_fail
      | some byte =>
        refine agrees_unless agrees_fail fun _ => ?_
        exact agrees_skip.bind fun _ => steady_pure kind
  · exact agrees_failAhead

theorem steady_tokenItems : Steady True tokenItems := by
  refine (steady_startsMember _).bind fun first => ?_
  refine agrees_unless agrees_failLater fun _ => ?_
  dsimp only
  refine steady_kind.bind fun kind => ?_
  refine (steady_startsNextMember _).bind fun second => ?_
  refine agrees_unless agrees_failLater fun _ => ?_
  exact steady_text.bind fun value => steady_pure _

theorem steady_tokenMember (fields : TokenFields) : Steady True (tokenMember fields) := by
  refine agrees_peek.bind fun head => ?_
  refine agrees_unless agrees_failAhead fun isQuote => ?_
  obtain rfl := Decidable.not_not.mp isQuote
  dsimp only
  refine agrees_skip_quote.bind fun _ => ?_
  refine (agrees_string.mono (fun _ => id) fun _ _ => IsText.isTextEnd).bind fun name => ?_
  split
  · refine agrees_unless agrees_failLater fun _ => ?_
    exact steady_colon.bind fun _ => steady_kind.bind fun kind => steady_pure _
  split
  · refine agrees_unless agrees_failLater fun _ => ?_
    exact steady_colon.bind fun _ => steady_text.bind fun value => steady_pure _
  · exact steady_colon.bind fun _ => steady_skipValue.bind fun _ => steady_pure _

theorem steady_tokenMembers : Steady True tokenMembers := by
  refine (steady_members steady_tokenMember _).bind fun fields => ?_
  split
  · exact steady_pure _
  · exact agrees_failLater
  · exact agrees_failLater

theorem steady_token : Steady late token := by
  refine agrees_need.bind fun byte => ?_
  split
  · exact (steady_within steady_tokenItems).weaken fun _ => At.isTextEnd
  split
  · exact (steady_within steady_tokenMembers).weaken fun _ => At.isTextEnd
  · exact agrees_mismatch _

end Token

end Scl.Json.Reader

namespace Scl

/-- The words of an error come before its position. -/
theorem LoadError.message_malformed (cause : Json.Cause) (position : Json.Position) :
    (LoadError.malformed ⟨cause, some position⟩).message =
      "invalid token JSON: " ++ cause.message ++
        s!" at line {position.line} column {position.column}" := by
  have regroup (start words line row column place : String) :
      start ++ (words ++ line ++ row ++ column ++ place) =
        start ++ words ++ (line ++ row ++ column ++ place) := by
    simp only [String.append_assoc]
  exact regroup ..

namespace Load

open Json.Reader
open Text (encodeUtf8 isText_encodeUtf8)

/-- Items are loaded alike from a text and from its bytes, if each item is read alike. -/
theorem items_agree {α : Type} {item : Json.Reader α} (each : Steady True item) (text : String) :
    (∃ answer, items item .text (encodeUtf8 text) = .ok answer ∧
      items item .stream (encodeUtf8 text) = .ok answer) ∨
    ∃ cause position otherPosition,
      items item .text (encodeUtf8 text) = .error (.malformed ⟨cause, some position⟩) ∧
      items item .stream (encodeUtf8 text) = .error (.malformed ⟨cause, some otherPosition⟩) := by
  have agrees : Steady False (document item) := steady_document each
  have ran := agrees (.ofBytes .text (encodeUtf8 text)) (.ofBytes .stream (encodeUtf8 text)) rfl
    (isText_encodeUtf8 text).isTextEnd
  simp only [items, Json.readDocument]
  generalize (document item).run (.ofBytes .text (encodeUtf8 text)) = result at ran
  generalize (document item).run (.ofBytes .stream (encodeUtf8 text)) = otherResult at ran
  cases ran with
  | ok => exact .inl ⟨_, rfl, rfl⟩
  | placed => exact .inr ⟨_, _, _, rfl, rfl⟩
  | unplaced _ _ _ impossible => exact impossible.elim

/-- A text read whole and the stream of its bytes give the same tokens, or they fail with the same
cause, which has the category, and with the same words up to the position. -/
theorem sources_agree (text : String) :
    (∃ tokens, tokensOfText text = .ok tokens ∧ tokensOfStream (encodeUtf8 text) = .ok tokens) ∨
    ∃ (error otherError : Json.Error) (words : String) (position otherPosition : Json.Position),
      tokensOfText text = .error (.malformed error) ∧
      tokensOfStream (encodeUtf8 text) = .error (.malformed otherError) ∧
      error.cause = otherError.cause ∧ error.cause.category = otherError.cause.category ∧
      (LoadError.malformed error).message =
        words ++ s!" at line {position.line} column {position.column}" ∧
      (LoadError.malformed otherError).message =
        words ++ s!" at line {otherPosition.line} column {otherPosition.column}" := by
  rcases items_agree steady_token text with same | ⟨cause, position, otherPosition, here, there⟩
  · exact .inl same
  · refine .inr ⟨_, _, "invalid token JSON: " ++ cause.message, position, otherPosition,
      here, there, rfl, rfl, ?_, ?_⟩
    · exact LoadError.message_malformed cause position
    · exact LoadError.message_malformed cause otherPosition

end Load

end Scl

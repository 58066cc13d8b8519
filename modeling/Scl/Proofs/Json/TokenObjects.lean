import Mathlib.Tactic.Choose
import Scl.Load
import Scl.Proofs.Json.Skipping
import Scl.Proofs.Json.Values

/-! # Tokens that are objects, and the array around them

A member of a token changes what is known of the token, is refused, or is skipped, and which of
these is settled by its name and its value; the blanks inside it make no difference. So the object
decides the fold over its members, and the array decides the list of what its items decide, or the
cause of the first one that is refused.
-/

namespace Scl.Json

open Reader

namespace Reader

variable {α : Type}

section Member

variable (fields : TokenFields)

/-- What is read behind the name of a member. -/
def behindName (name : String) : Reader TokenFields := do
  if name = "type" then
    if fields.kind.isSome then failLater (.duplicateField name)
    colon
    return { fields with kind := some (← kind) }
  else if name = "value" then
    if fields.value.isSome then failLater (.duplicateField name)
    colon
    return { fields with value := some (← text) }
  else
    colon
    skipValue
    return fields

theorem becomes_tokenMember :
    Becomes Anything [quote] (tokenMember fields) (string >>= behindName fields) := by
  have looked {next : Option UInt8 → Reader TokenFields} :
      Becomes (Starting quote) [] (peek >>= next) (next (some quote)) :=
    becomes_peek fun rest starting => congrArg next starting
  refine looked.trans ?_ fun _ _ => rfl
  simp only [ne_eq, not_true_eq_false, if_false]
  exact becomes_skip

variable {fields}

def valueBytes (before after : Gap) (value : String) : List UInt8 :=
  before.bytes ++ [':'.toUInt8] ++ (after.bytes ++ Text.encodeUtf8 value)

/-- Behind a colon, a value that is settled whatever blanks stand before it. -/
theorem settled_behindColon {value : String} {reader : Reader α} (keep : α → TokenFields)
    (settled : SettledBehindGap (Text.encodeUtf8 value) reader) :
    ∃ outcome, ∀ before after,
      Decides Delimited (valueBytes before after value) (do
        colon
        return keep (← reader)) outcome := by
  obtain ⟨outcome, decides⟩ := settled
  refine ⟨outcome >>= fun answer => .ok (keep answer), fun before after => ?_⟩
  refine Decides.of_becomes ?_ (becomes_colon before) fun _ _ => trivial
  exact (decides after).bind_last fun answer => decides_pure (keep answer)

theorem decides_behindColon_skipped {value : String} (isValue : IsValue value)
    (before after : Gap) :
    Decides Delimited (valueBytes before after value) (do
      colon
      skipValue
      return fields) (.ok fields) := by
  refine Decides.of_becomes ?_ (becomes_colon before) fun _ _ => trivial
  exact (decides_skipValue isValue after).bind_last fun _ => decides_pure fields

theorem settled_behindName (fields : TokenFields) (name : String) {value : String}
    (isValue : IsValue value) :
    ∃ outcome, ∀ before after,
      Decides Delimited (valueBytes before after value) (behindName fields name) outcome := by
  obtain ⟨byte, others, bytes, start⟩ := exists_valueBytes isValue
  have duplicate {next : Unit → Reader TokenFields} :
      ∃ outcome, ∀ before after, Decides Delimited (valueBytes before after value)
        (failLater (.duplicateField name) >>= next) outcome :=
    ⟨_, fun _ _ => .refuses fun _ _ => refuses_failLater.bind⟩
  rw [behindName]
  split
  · split
    · exact duplicate
    · apply settled_behindColon fun kind => { fields with kind := some kind }
      rw [bytes]
      exact settled_kind start
  split
  · split
    · exact duplicate
    · apply settled_behindColon fun value => { fields with value := some value }
      rw [bytes]
      exact settled_text start
  · exact ⟨_, decides_behindColon_skipped isValue⟩

/-- A member is settled by its name and its value, and the blanks inside it make no difference. -/
theorem settled_tokenMember (fields : TokenFields) (name : Quoted) {value : String}
    (isValue : IsValue value) :
    ∃ outcome, ∀ before after, Decides Delimited
      (Member.bytes ⟨name, before, after, value, isValue⟩) (tokenMember fields) outcome := by
  obtain ⟨spelled, decides⟩ := name.settled_string
  have start {outcome : Except Cause TokenFields} {others : List UInt8}
      (decides : Decides Delimited others (string >>= behindName fields) outcome) :
      Decides Delimited (quote :: others) (tokenMember fields) outcome :=
    decides.of_becomes (becomes_tokenMember fields) fun _ _ => trivial
  cases spelled with
  | error cause => exact ⟨_, fun _ _ => start (decides.bind_error fun _ _ => trivial)⟩
  | ok text =>
    obtain ⟨outcome, each⟩ := settled_behindName fields text isValue
    refine ⟨outcome, fun before after => start ?_⟩
    exact (each before after).of_becomes decides.becomes fun _ _ => trivial

/-- One outcome for every member and everything that may be known before it. -/
theorem exists_judge : ∃ judge : TokenFields → Member → Except Cause TokenFields,
    (∀ fields member, Decides Delimited member.bytes (tokenMember fields) (judge fields member)) ∧
      ∀ fields (member : Member) before after,
        judge fields { member with before := before, after := after } = judge fields member := by
  choose outcome decides using settled_tokenMember
  refine ⟨fun fields member => outcome fields member.name member.isValue, ?_, ?_⟩
  · intro fields member
    exact decides fields member.name member.isValue member.before member.after
  · intro fields member before after
    rfl

/-- A member with another name leaves what is known of the token as it is. -/
theorem decides_unknown (fields : TokenFields) (member : Member) {name : String}
    (means : member.name.meaning = some name) (notType : name ≠ "type")
    (notValue : name ≠ "value") :
    Decides Delimited member.bytes (tokenMember fields) (.ok fields) := by
  obtain ⟨quoted, before, after, value, isValue⟩ := member
  have named : Decides Delimited (valueBytes before after value) (behindName fields name)
      (.ok fields) := by
    simp only [behindName, notType, notValue, if_false]
    exact decides_behindColon_skipped isValue before after
  have spelled := Quoted.decides_string means
  have whole : Decides Delimited (quoted.inside ++ valueBytes before after value)
      (string >>= behindName fields) (.ok fields) :=
    named.of_becomes spelled.becomes fun _ _ => trivial
  exact whole.of_becomes (becomes_tokenMember fields) fun _ _ => trivial

end Member

section Token

/-- The token of these members, if both are there. -/
def TokenFields.token (fields : TokenFields) : Except Cause Token :=
  match fields.kind, fields.value with
  | some kind, some value => .ok ⟨kind, value⟩
  | none, _ => .error (.missingField "type")
  | _, none => .error (.missingField "value")

def objectBytes (members : Enclosed Member) : List UInt8 :=
  Bracket.opening .object :: (members.bytes Member.bytes ++ [Bracket.closing .object])

/-- An object decides the fold over its members, and whether both fields are there then. -/
theorem decides_tokenMembers {judge : TokenFields → Member → Except Cause TokenFields}
    (decides : ∀ fields member,
      Decides Delimited member.bytes (tokenMember fields) (judge fields member))
    (members : Enclosed Member) :
    Decides Anything (objectBytes members) (within .object tokenMembers)
      (members.cores.foldlM judge ⟨none, none⟩ >>= TokenFields.token) := by
  have judges : Judges .object Member.bytes tokenMember judge :=
    ⟨fun member => ⟨quote, _, rfl, opens_quote .object⟩, decides⟩
  have complete (fields : TokenFields) : Decides (Closing .object) []
      (match fields.kind, fields.value with
        | some kind, some value => return ⟨kind, value⟩
        | none, _ => failLater (.missingField "type")
        | _, none => failLater (.missingField "value") : Reader Token) fields.token := by
    rcases fields with ⟨_ | kind, _ | value⟩
    · exact .refuses fun _ _ => refuses_failLater
    · exact .refuses fun _ _ => refuses_failLater
    · exact .refuses fun _ _ => refuses_failLater
    · exact decides_pure _
  apply Decides.within
  exact (judges.decides_members members ⟨none, none⟩).bind_last complete

theorem decides_token {judge : TokenFields → Member → Except Cause TokenFields}
    (decides : ∀ fields member,
      Decides Delimited member.bytes (tokenMember fields) (judge fields member))
    (members : Enclosed Member) :
    Decides Anything (objectBytes members) token
      (members.cores.foldlM judge ⟨none, none⟩ >>= TokenFields.token) := by
  have shown : isBlank (Bracket.opening .object) = false := by decide
  have notList : Bracket.opening .object ≠ Bracket.opening .list := by decide
  change Decides Anything (Gap.none.bytes ++ objectBytes members) _ _
  refine Decides.of_becomes ?_ (becomes_need Gap.none shown) fun _ _ => rfl
  simp only [notList, if_false, if_true]
  exact decides_tokenMembers decides members

end Token

section Array

variable {ι : Type} {item : Reader α} {judge : ι → Except Cause α} {body : ι → List UInt8}

/-- Items that are kept with the latest first are those of the list, or the first one that is
refused ends both. -/
theorem foldlM_kept (judge : ι → Except Cause α) (cores : List ι) (earlier : List α) :
    cores.foldlM (fun items core => judge core >>= fun answer => .ok (answer :: items)) earlier =
      cores.mapM judge >>= fun items => .ok (items.reverse ++ earlier) := by
  induction cores generalizing earlier with
  | nil => rfl
  | cons core cores ih =>
    rw [List.foldlM_cons, List.mapM_cons]
    cases judge core with
    | error cause => rfl
    | ok answer =>
      refine (ih (answer :: earlier)).trans ?_
      cases cores.mapM judge with
      | error cause => rfl
      | ok items =>
        change Except.ok _ = Except.ok _
        rw [List.reverse_cons, List.append_assoc]
        rfl

/-- An array decides the list of what its items decide. -/
theorem decides_listOf
    (opens : ∀ core, ∃ byte others, body core = byte :: others ∧ Opens .list byte)
    (decides : ∀ core, Decides Delimited (body core) item (judge core))
    (gap : Gap) (enclosed : Enclosed ι) :
    Decides Anything
      (gap.bytes ++ Bracket.opening .list :: (enclosed.bytes body ++ [Bracket.closing .list]))
      (listOf item) (enclosed.cores.mapM judge) := by
  have judges : Judges .list body (fun items => return (← item) :: items)
      (fun items core => judge core >>= fun answer => .ok (answer :: items)) :=
    ⟨opens, fun items core => (decides core).bind_last fun answer => decides_pure _⟩
  have shown : isBlank (Bracket.opening .list) = false := by decide
  refine Decides.of_becomes ?_ (becomes_need gap shown) fun _ _ => rfl
  simp only [if_true]
  have inside := (judges.decides_members enclosed []).within
  rw [foldlM_kept] at inside
  have whole := inside.bind_last fun reversed => decides_pure reversed.reverse
  have inOrder : (enclosed.cores.mapM judge >>= fun items => .ok (items.reverse ++ [])) >>=
      (fun reversed => .ok reversed.reverse) = enclosed.cores.mapM judge := by
    cases enclosed.cores.mapM judge with
    | error cause => rfl
    | ok items =>
      change Except.ok _ = Except.ok _
      rw [List.append_nil, List.reverse_reverse]
  rwa [inOrder] at whole

def arrayBytes (body : ι → List UInt8) (before : Gap) (enclosed : Enclosed ι) (after : Gap) :
    List UInt8 :=
  before.bytes ++ Bracket.opening .list :: (enclosed.bytes body ++ [Bracket.closing .list]) ++
    after.bytes

/-- An array with blanks around it is all of a document. -/
theorem decides_document
    (opens : ∀ core, ∃ byte others, body core = byte :: others ∧ Opens .list byte)
    (decides : ∀ core, Decides Delimited (body core) item (judge core))
    (before : Gap) (enclosed : Enclosed ι) (after : Gap) :
    Decides (· = []) (arrayBytes body before enclosed after) (document item)
      (enclosed.cores.mapM judge) := by
  have array := decides_listOf opens decides before enclosed
  generalize enclosed.cores.mapM judge = outcome at array
  cases outcome with
  | error cause => exact array.bind_error fun _ _ => trivial
  | ok items =>
    refine Decides.of_becomes ?_ array.becomes fun _ _ => trivial
    rw [← List.append_nil after.bytes]
    refine Decides.of_becomes ?_ (becomes_blanks_end after) fun _ => id
    exact decides_pure items

/-- What is loaded from a text or from a stream is what the bytes decide. -/
theorem items_eq_ok_iff {bytes : List UInt8} {outcome : Except Cause (List α)}
    (decides : Decides (· = []) bytes (document item) outcome) (source : Source)
    (items : List α) : Load.items item source bytes = .ok items ↔ outcome = .ok items := by
  have here : (Input.ofBytes source bytes).rest = bytes ++ [] := (List.append_nil bytes).symm
  rw [Load.items, readDocument]
  cases decides with
  | reads reads =>
    obtain ⟨last, ran, _⟩ := reads [] rfl _ here
    rw [ran]
    constructor
    · rintro ⟨⟩
      rfl
    · rintro ⟨⟩
      rfl
  | refuses refuses =>
    obtain ⟨place, last, ran⟩ := refuses [] rfl _ here
    rw [ran]
    constructor
    · nofun
    · nofun

end Array

end Reader

end Scl.Json

import Mathlib.Data.List.Forall2
import Scl.Proofs.Json.RoundTrip
import Scl.Proofs.Json.TokenObjects

/-! # Unknown members do not change what is loaded

A token file whose tokens are objects may have more members in them than it needs. Members with
other names are put in at any place, with any well-formed value; what stood there keeps its order,
its names and its values, and may get other blanks around it. The member reader leaves what is known
of the token as it is at a member that was put in, and the other members settle what they settled
before. So each object, and then the array, decides the same, and the same tokens are loaded.
-/

namespace Scl.Json

open Reader

/-- A member whose name is none of a token's. -/
def Member.IsUnknown (member : Member) : Prop :=
  ∃ name, member.name.meaning = some name ∧ name ≠ "type" ∧ name ≠ "value"

/-- Unknown members are put in among others, which keep their names and their values. -/
inductive Extended : List Member → List Member → Prop where
  | nil : Extended [] []
  | keep {few many : List Member} (member : Member) (before after : Gap)
    (later : Extended few many) :
    Extended (member :: few) ({ member with before := before, after := after } :: many)
  | insert {few many : List Member} {member : Member} (unknown : member.IsUnknown)
    (later : Extended few many) : Extended few (member :: many)

/-- An array of tokens that are objects, each with any members. -/
structure ObjectFile where
  before : Gap
  objects : Enclosed (Enclosed Member)
  after : Gap

namespace ObjectFile

def writeObject (members : Enclosed Member) : String :=
  "\x7b" ++ members.write Member.write ++ "\x7d"

def write (file : ObjectFile) : String :=
  file.before.text ++ ("[" ++ file.objects.write writeObject ++ "]") ++ file.after.text

theorem encodeUtf8_write (file : ObjectFile) :
    Text.encodeUtf8 file.write = arrayBytes objectBytes file.before file.objects file.after := by
  have object : (fun members => Text.encodeUtf8 (writeObject members)) = objectBytes := by
    funext members
    refine (encodeUtf8_bracketed .object _).trans ?_
    rw [Enclosed.encodeUtf8_write, funext Member.encodeUtf8_write]
    rfl
  have array := encodeUtf8_bracketed .list (file.objects.write writeObject)
  rw [Enclosed.encodeUtf8_write, object] at array
  rw [write, Text.encodeUtf8_append, Text.encodeUtf8_append]
  exact congrArg (file.before.bytes ++ · ++ file.after.bytes) array

end ObjectFile

/-- A text is an array of tokens that are objects, and another one is the same array with unknown
members put into its objects, and perhaps with other blanks. -/
def Widened (text wider : String) : Prop :=
  ∃ few many : ObjectFile, text = few.write ∧ wider = many.write ∧
    List.Forall₂ (fun members more => Extended members.cores more.cores)
      few.objects.cores many.objects.cores

/-- The fold over the members is the same if unknown members leave everything as it is and the
blanks inside a member make no difference. -/
theorem Extended.foldlM_eq {few many : List Member}
    {judge : TokenFields → Member → Except Cause TokenFields} (extended : Extended few many)
    (passes : ∀ fields member, member.IsUnknown → judge fields member = .ok fields)
    (regapped : ∀ fields (member : Member) before after,
      judge fields { member with before := before, after := after } = judge fields member)
    (fields : TokenFields) : many.foldlM judge fields = few.foldlM judge fields := by
  induction extended generalizing fields with
  | nil => rfl
  | keep member before after later ih =>
    rw [List.foldlM_cons, List.foldlM_cons, regapped]
    congr 1
    funext next
    exact ih next
  | insert unknown later ih =>
    rw [List.foldlM_cons, passes fields _ unknown]
    exact ih fields

/-- Items that decide the same make the same list, or give the same cause where one is refused. -/
theorem mapM_eq_of_forall₂ {ι α : Type} {Same : ι → ι → Prop} {judge : ι → Except Cause α}
    {cores others : List ι} (related : List.Forall₂ Same cores others)
    (agree : ∀ core other, Same core other → judge other = judge core) :
    others.mapM judge = cores.mapM judge := by
  induction related with
  | nil => rfl
  | cons same later ih => rw [List.mapM_cons, List.mapM_cons, agree _ _ same, ih]

/-- Whatever unknown members are put into the objects of a token file that is loaded, the same
tokens are loaded, from a text and from a stream. -/
theorem tokens_of_widened {text wider : String} {tokens : List Token}
    (loaded : Load.tokensOfText text = .ok tokens) (widened : Widened text wider) :
    Load.tokensOfText wider = .ok tokens ∧
      Load.tokensOfStream (Text.encodeUtf8 wider) = .ok tokens := by
  obtain ⟨few, many, rfl, rfl, extended⟩ := widened
  obtain ⟨judge, decides, regapped⟩ := exists_judge
  have passes (fields : TokenFields) (member : Member) (unknown : member.IsUnknown) :
      judge fields member = .ok fields := by
    obtain ⟨name, means, notType, notValue⟩ := unknown
    have skipped := decides_unknown fields member means notType notValue
    exact (decides fields member).unique skipped delimited_nil
  let judgeObject (members : Enclosed Member) : Except Cause Token :=
    members.cores.foldlM judge ⟨none, none⟩ >>= TokenFields.token
  have reads (file : ObjectFile) (source : Source) :
      Load.items token source (Text.encodeUtf8 file.write) = .ok tokens ↔
        file.objects.cores.mapM judgeObject = .ok tokens := by
    rw [file.encodeUtf8_write]
    apply items_eq_ok_iff
    apply decides_document
    · exact fun members => ⟨_, _, rfl, by decide, by decide⟩
    · intro members
      exact (decides_token decides members).weaken fun _ _ => trivial
  have same : many.objects.cores.mapM judgeObject = few.objects.cores.mapM judgeObject := by
    apply mapM_eq_of_forall₂ extended
    intro members more extended
    change more.cores.foldlM judge _ >>= _ = members.cores.foldlM judge _ >>= _
    rw [extended.foldlM_eq passes regapped]
  have outcome := (reads few .text).mp loaded
  rw [← same] at outcome
  exact ⟨(reads many .text).mpr outcome, (reads many .stream).mpr outcome⟩

theorem tokens_of_widened_nested :
    let tokens : List Token := [⟨.keyword, "exit"⟩]
    let wider :=
      "[\x7b\"note\":\x7b\"type\":[-1.50e+3,\"\\ud834\"]\x7d,\"type\":\"KEYWORD\"," ++
        "\"\\u0074ag\":null,\"value\":\"exit\",\"note\":[ ]\x7d]"
    Load.tokensOfText (writeTokens tokens) = .ok tokens ∧ Widened (writeTokens tokens) wider ∧
      Load.tokensOfText wider = .ok tokens ∧
      Load.tokensOfStream (Text.encodeUtf8 wider) = .ok tokens := by
  intro tokens wider
  let member (name : Quoted) {value : String} (isValue : IsValue value) : Member :=
    ⟨name, .none, .none, value, isValue⟩
  let alone {ι : Type} (core : ι) : Gapped ι := ⟨.none, core, .none⟩
  let space : Gap := ⟨" ", fun c member => .inl (List.mem_singleton.mp member)⟩
  let number : Numeral :=
    ⟨true, ⟨1, []⟩, by decide, some ⟨5, [0]⟩, some ⟨false, some false, ⟨3, []⟩⟩⟩
  let half : Quoted := ⟨[.unit ⟨⟨13, false⟩, ⟨8, false⟩, ⟨3, false⟩, ⟨4, false⟩⟩]⟩
  let list := Grammar.bracketed
    (.more (.item .none (.number number)) .none (.last (.item .none (.string half)) .none))
  let object := Grammar.bracketed (.last (.member .none (.plain "type") .none .none list) .none)
  let kind := member (.plain "type") (.string (.plain "KEYWORD"))
  let value := member (.plain "value") (.string (.plain "exit"))
  let nested := member (.plain "note") object
  let tag : Quoted := ⟨[.unit ⟨⟨0, false⟩, ⟨0, false⟩, ⟨7, false⟩, ⟨4, false⟩⟩,
    .plain 'a' (by decide) (by decide) (by decide), .plain 'g' (by decide) (by decide) (by decide)]⟩
  let escaped := member tag .null
  let again := member (.plain "note") (.empty .list space)
  let few : ObjectFile :=
    ⟨.none, .entries (alone (.entries (alone kind) [alone value])) [], .none⟩
  let many : ObjectFile :=
    ⟨.none, .entries (alone (.entries (alone nested)
      [alone kind, alone escaped, alone value, alone again])) [], .none⟩
  have unknownNote : nested.IsUnknown := ⟨"note", by decide, by decide, by decide⟩
  have unknownTag : escaped.IsUnknown := ⟨"tag", by decide, by decide, by decide⟩
  have unknownAgain : again.IsUnknown := ⟨"note", by decide, by decide, by decide⟩
  have extended : Extended [kind, value] [nested, kind, escaped, value, again] :=
    .insert unknownNote (.keep kind .none .none (.insert unknownTag
      (.keep value .none .none (.insert unknownAgain .nil))))
  have widened : Widened (writeTokens tokens) wider :=
    ⟨few, many, by decide, by decide, .cons extended .nil⟩
  have loaded : Load.tokensOfText (writeTokens tokens) = .ok tokens :=
    readable_token.load .text (isTokenFile_writeTokens tokens)
  exact ⟨loaded, widened, tokens_of_widened loaded widened⟩

end Scl.Json

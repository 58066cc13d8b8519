import Mathlib.Data.List.Forall2
import Mathlib.Data.Set.List
import Scl.Proofs.Json.RoundTrip
import Scl.Proofs.Json.Sources
import Scl.Proofs.Json.TokenValues

/-! # An array is loaded element by element

The elements of an array are any well-formed values. Each of them settles on its own whether it is a
token, so an array that it has for itself tells all there is to know of it. If all these arrays are
loaded, the tokens of the whole array are theirs, one after the other. If some are not, the whole is
refused for the reason that the first of them is refused for: neither the elements in front of it
nor those behind it, nor the brackets around them, have a part in that.
-/

namespace Scl.Json

open Reader

/-- Texts as the elements of an array. -/
def arrayOf (texts : List String) : String :=
  "[" ++ ",".intercalate texts ++ "]"

/-- A text is one complete value, with blanks around it. -/
def IsElement (text : String) : Prop :=
  ∃ part : Gapped Item, part.write Item.value = text

/-- Two errors are those of JSON texts with the same fault, each with its own position: the same
cause, and so the same category, and the same words in front of the position. -/
def SameFault (error other : LoadError) : Prop :=
  ∃ (cause : Cause) (position otherPosition : Position) (words : String),
    error = .malformed ⟨cause, some position⟩ ∧ other = .malformed ⟨cause, some otherPosition⟩ ∧
      error.message = words ++ s!" at line {position.line} column {position.column}" ∧
      other.message = words ++ s!" at line {otherPosition.line} column {otherPosition.column}"

/-- What is loaded from an array of these elements is told by the arrays of one element each. -/
structure LoadsElements (load : String → Except LoadError (List Token))
    (texts : List String) : Prop where
  /-- The array is loaded exactly when each element is. -/
  loads : (∃ tokens, load (arrayOf texts) = .ok tokens) ↔
    ∀ text ∈ texts, ∃ tokens, load (arrayOf [text]) = .ok tokens
  /-- Each element is one token, and these are the tokens of the array. -/
  joins : ∀ lists,
    List.Forall₂ (fun text tokens => load (arrayOf [text]) = .ok tokens) texts lists →
      (∀ tokens ∈ lists, tokens.length = 1) ∧ load (arrayOf texts) = .ok lists.flatten
  /-- The error of the array is that of the first element that has one. -/
  fails : ∀ error, load (arrayOf texts) = .error error → ∃ before text after own,
    texts = before ++ text :: after ∧
      (∀ earlier ∈ before, ∃ tokens, load (arrayOf [earlier]) = .ok tokens) ∧
      load (arrayOf [text]) = .error own ∧ SameFault error own

section Outcomes

variable {ι α : Type} {judge : ι → Except Cause α} {cores : List ι}

theorem mapM_of_forall₂ {items : List α}
    (good : List.Forall₂ (fun core item => judge core = .ok item) cores items) :
    cores.mapM judge = .ok items := by
  induction good with
  | nil => rfl
  | cons judged _ ih =>
    rw [List.mapM_cons, judged, ih]
    rfl

/-- Either all are good, or there is a first one that is not, and its cause is that of all. -/
theorem mapM_ok_or_first (judge : ι → Except Cause α) (cores : List ι) :
    ((∃ items, cores.mapM judge = .ok items) ∧ ∀ core ∈ cores, ∃ item, judge core = .ok item) ∨
      ∃ before core after cause, cores = before ++ core :: after ∧
        (∀ earlier ∈ before, ∃ item, judge earlier = .ok item) ∧ judge core = .error cause ∧
        cores.mapM judge = .error cause := by
  induction cores with
  | nil => exact .inl ⟨⟨[], rfl⟩, nofun⟩
  | cons core cores ih =>
    rw [List.mapM_cons]
    cases judged : judge core with
    | error cause => exact .inr ⟨[], core, cores, cause, rfl, nofun, judged, rfl⟩
    | ok item =>
      have first {others : List ι} (good : ∀ other ∈ others, ∃ item, judge other = .ok item) :
          ∀ other ∈ core :: others, ∃ item, judge other = .ok item := by
        intro other member
        rcases List.mem_cons.mp member with rfl | member
        · exact ⟨item, judged⟩
        · exact good other member
      rcases ih with ⟨⟨items, ran⟩, good⟩ | ⟨before, bad, after, cause, rfl, good, refused, ran⟩
      · rw [ran]
        exact .inl ⟨⟨item :: items, rfl⟩, first good⟩
      · rw [ran]
        exact .inr ⟨core :: before, bad, after, cause, rfl, first good, refused, rfl⟩

end Outcomes

section Loading

variable {α : Type} {item : Reader α}

/-- A loaded text is what its bytes decide: the same items, or the same cause at some position. -/
inductive Yields : Except LoadError (List α) → Except Cause (List α) → Prop where
  | items (items : List α) : Yields (.ok items) (.ok items)
  | refused (cause : Cause) (position : Position) :
    Yields (.error (.malformed ⟨cause, some position⟩)) (.error cause)

namespace Yields

variable {result : Except LoadError (List α)} {outcome : Except Cause (List α)}

theorem ok_iff {items : List α} (yields : Yields result outcome) :
    result = .ok items ↔ outcome = .ok items := by
  cases yields with
  | items =>
    constructor
    · rintro ⟨⟩
      rfl
    · rintro ⟨⟩
      rfl
  | refused => exact ⟨nofun, nofun⟩

theorem exists_position {cause : Cause} (yields : Yields result (.error cause)) :
    ∃ position, result = .error (.malformed ⟨cause, some position⟩) := by
  cases yields with
  | refused _ position => exact ⟨position, rfl⟩

end Yields

/-- A fault of a text has a position, from whatever source the text is read. -/
theorem yields_items {text : String} {outcome : Except Cause (List α)} (each : Steady True item)
    (decides : Decides (· = []) (Text.encodeUtf8 text) (document item) outcome)
    (source : Source) : Yields (Load.items item source (Text.encodeUtf8 text)) outcome := by
  have here : (Input.ofBytes source (Text.encodeUtf8 text)).rest = Text.encodeUtf8 text ++ [] :=
    (List.append_nil _).symm
  have steady : Steady False (document item) := steady_document each
  have placed := steady (.ofBytes source (Text.encodeUtf8 text)) _ rfl
    (Text.isText_encodeUtf8 text).isTextEnd
  rw [Load.items, readDocument]
  cases decides with
  | reads reads =>
    obtain ⟨last, ran, _⟩ := reads [] rfl _ here
    rw [ran]
    exact .items _
  | refuses refuses =>
    obtain ⟨place, last, ran⟩ := refuses [] rfl _ here
    rw [ran] at placed ⊢
    cases placed with
    | placed => exact .refused _ _
    | unplaced _ _ _ impossible => exact impossible.elim

end Loading

section Array

/-- Parts with commas between them, or nothing. -/
def Enclosed.ofParts {ι : Type} : List (Gapped ι) → Enclosed ι
  | [] => .blanks .none
  | first :: others => .entries first others

theorem Enclosed.cores_ofParts {ι : Type} (parts : List (Gapped ι)) :
    (ofParts parts).cores = parts.map Gapped.core := by
  cases parts with
  | nil => rfl
  | cons first others => rfl

theorem Enclosed.write_ofParts {ι : Type} (write : ι → String) (parts : List (Gapped ι)) :
    (ofParts parts).write write = ",".intercalate (parts.map (Gapped.write write)) := by
  cases parts with
  | nil => rfl
  | cons first others => rfl

theorem encodeUtf8_arrayOf (parts : List (Gapped Item)) :
    Text.encodeUtf8 (arrayOf (parts.map (Gapped.write Item.value))) =
      arrayBytes Item.bytes .none (.ofParts parts) .none := by
  rw [arrayOf, ← Enclosed.write_ofParts]
  refine (encodeUtf8_bracketed .list _).trans ?_
  rw [Enclosed.encodeUtf8_write]
  exact (List.append_nil _).symm

abbrev textsOf (parts : List (Gapped Item)) : List String :=
  parts.map (Gapped.write Item.value)

/-- One outcome for every item, and the list of these for an array of items. -/
theorem exists_yields : ∃ judge : Item → Except Cause Token, ∀ source parts,
    Yields (Load.items token source (Text.encodeUtf8 (arrayOf (textsOf parts))))
      ((parts.map Gapped.core).mapM judge) := by
  choose judge decides using fun item : Item => (item.settled settled_token).settled
  refine ⟨judge, fun source parts => yields_items steady_token ?_ source⟩
  rw [encodeUtf8_arrayOf, ← Enclosed.cores_ofParts]
  exact decides_document Item.opens decides .none (.ofParts parts) .none

section Elements

variable {load : String → Except LoadError (List Token)} {judge : Item → Except Cause Token}
  (yields : ∀ parts,
    Yields (load (arrayOf (textsOf parts))) ((parts.map Gapped.core).mapM judge))

include yields

/-- An element in an array of its own. -/
theorem yields_single (part : Gapped Item) :
    Yields (load (arrayOf [part.write Item.value]))
      (judge part.core >>= fun token => .ok [token]) := by
  have single := yields [part]
  rwa [List.map_singleton, List.mapM_cons] at single

theorem loaded_single_iff (part : Gapped Item) {tokens : List Token} :
    load (arrayOf [part.write Item.value]) = .ok tokens ↔
      ∃ token, judge part.core = .ok token ∧ tokens = [token] := by
  rw [(yields_single yields part).ok_iff]
  cases judge part.core with
  | error cause =>
    constructor
    · nofun
    · rintro ⟨_, ⟨⟩, _⟩
  | ok token =>
    constructor
    · rintro ⟨⟩
      exact ⟨token, rfl, rfl⟩
    · rintro ⟨_, ⟨⟩, rfl⟩
      rfl

theorem exists_loaded_single_iff (part : Gapped Item) :
    (∃ tokens, load (arrayOf [part.write Item.value]) = .ok tokens) ↔
      ∃ token, judge part.core = .ok token := by
  simp only [loaded_single_iff yields]
  constructor
  · rintro ⟨_, token, judged, _⟩
    exact ⟨token, judged⟩
  · rintro ⟨token, judged⟩
    exact ⟨[token], token, judged, rfl⟩

/-- The tokens of elements that are loaded, by induction on the elements. -/
theorem judged_of_loaded {parts : List (Gapped Item)} {lists : List (List Token)}
    (loaded : List.Forall₂
      (fun part tokens => load (arrayOf [part.write Item.value]) = .ok tokens) parts lists) :
    (∀ tokens ∈ lists, tokens.length = 1) ∧
      List.Forall₂ (fun item token => judge item = .ok token) (parts.map Gapped.core)
        lists.flatten := by
  induction loaded with
  | nil => exact ⟨nofun, .nil⟩
  | @cons part tokens parts lists first _ ih =>
    obtain ⟨token, judged, rfl⟩ := (loaded_single_iff yields part).mp first
    obtain ⟨singles, later⟩ := ih
    exact ⟨List.forall_mem_cons.mpr ⟨rfl, singles⟩, .cons judged later⟩

theorem joins_of_yields (parts : List (Gapped Item)) (lists : List (List Token))
    (loaded : List.Forall₂ (fun text tokens => load (arrayOf [text]) = .ok tokens)
      (textsOf parts) lists) :
    (∀ tokens ∈ lists, tokens.length = 1) ∧
      load (arrayOf (textsOf parts)) = .ok lists.flatten := by
  obtain ⟨singles, judged⟩ := judged_of_loaded yields (List.forall₂_map_left_iff.mp loaded)
  exact ⟨singles, (yields parts).ok_iff.mpr (mapM_of_forall₂ judged)⟩

/-- Either the array and all its elements are loaded, or the array is refused like the first of
them that is. -/
theorem loaded_or_first_refused (parts : List (Gapped Item)) :
    ((∃ tokens, load (arrayOf (textsOf parts)) = .ok tokens) ∧
        ∀ text ∈ textsOf parts, ∃ tokens, load (arrayOf [text]) = .ok tokens) ∨
      ∃ error before text after own, load (arrayOf (textsOf parts)) = .error error ∧
        textsOf parts = before ++ text :: after ∧
        (∀ earlier ∈ before, ∃ tokens, load (arrayOf [earlier]) = .ok tokens) ∧
        load (arrayOf [text]) = .error own ∧ SameFault error own := by
  -- What is judged good is loaded on its own.
  have alone {chosen : List (Gapped Item)}
      (good : ∀ core ∈ chosen.map Gapped.core, ∃ token, judge core = .ok token) :
      ∀ text ∈ textsOf chosen, ∃ tokens, load (arrayOf [text]) = .ok tokens := by
    intro text member
    obtain ⟨part, there, rfl⟩ := List.mem_map.mp member
    exact (exists_loaded_single_iff yields part).mpr (good _ (List.mem_map_of_mem there))
  have whole := yields parts
  rcases mapM_ok_or_first judge (parts.map Gapped.core) with
    ⟨⟨tokens, ran⟩, good⟩ | ⟨_, _, _, cause, cut, good, bad, ran⟩
  · rw [ran] at whole
    exact .inl ⟨⟨tokens, whole.ok_iff.mpr rfl⟩, alone good⟩
  · rw [ran] at whole
    obtain ⟨position, refused⟩ := whole.exists_position
    obtain ⟨before, _, rfl, rfl, behind⟩ := List.map_eq_append_iff.mp cut
    obtain ⟨part, after, rfl, rfl, rfl⟩ := List.map_eq_cons_iff.mp behind
    have own := yields_single yields part
    rw [bad] at own
    obtain ⟨otherPosition, ownRefused⟩ := own.exists_position
    have same : SameFault (.malformed ⟨cause, some position⟩)
        (.malformed ⟨cause, some otherPosition⟩) :=
      ⟨cause, position, otherPosition, _, rfl, rfl, LoadError.message_malformed cause position,
        LoadError.message_malformed cause otherPosition⟩
    exact .inr ⟨_, _, _, _, _, refused, List.map_append .., alone good, ownRefused, same⟩

theorem loadsElements_of_yields (parts : List (Gapped Item)) :
    LoadsElements load (textsOf parts) := by
  have joins := joins_of_yields yields parts
  rcases loaded_or_first_refused yields parts with
    ⟨⟨tokens, loaded⟩, each⟩ | ⟨error, before, text, after, own, refused, cut, earlier, bad, same⟩
  · refine ⟨⟨fun _ => each, fun _ => ⟨tokens, loaded⟩⟩, joins, fun error refused => ?_⟩
    rw [loaded] at refused
    cases refused
  · refine ⟨⟨?_, fun all => ?_⟩, joins, fun other refusedToo => ?_⟩
    · rintro ⟨tokens, loaded⟩
      rw [refused] at loaded
      cases loaded
    · have among : text ∈ textsOf parts := by
        rw [cut]
        exact List.mem_append_right before (List.mem_cons_self ..)
      obtain ⟨tokens, loaded⟩ := all text among
      rw [bad] at loaded
      cases loaded
    · obtain rfl := Except.error.inj (refused.symm.trans refusedToo)
      exact ⟨before, text, after, own, cut, earlier, bad, same⟩

end Elements

end Array

/-- Whatever well-formed values are the elements of an array, loading the array is loading each of
them, from a text and from a stream. -/
theorem elements_load (texts : List String) (elements : ∀ text ∈ texts, IsElement text) :
    LoadsElements Load.tokensOfText texts ∧
      LoadsElements (fun text => Load.tokensOfStream (Text.encodeUtf8 text)) texts := by
  have written : texts ∈ Set.range (List.map (Gapped.write Item.value)) := by
    rw [Set.range_list_map]
    exact elements
  obtain ⟨parts, rfl⟩ := written
  obtain ⟨judge, yields⟩ := exists_yields
  constructor
  · apply loadsElements_of_yields
    exact yields .text
  · apply loadsElements_of_yields
    exact yields .stream

theorem elements_load_number_between :
    let exit : Token := ⟨.keyword, "exit"⟩
    let texts := [writeToken exit, " -5\n", "[\"KEYWORD\" ,null]"]
    (∀ text ∈ texts, IsElement text) ∧
      Load.tokensOfText (arrayOf [writeToken exit]) = .ok [exit] ∧
      LoadsElements Load.tokensOfText texts ∧
      LoadsElements (fun text => Load.tokensOfStream (Text.encodeUtf8 text)) texts := by
  intro exit texts
  let alone (item : Item) : Gapped Item := ⟨.none, item, .none⟩
  let space : Gap := ⟨" ", fun c member => .inl (List.mem_singleton.mp member)⟩
  let line : Gap := ⟨"\n", fun c member => .inr (.inr (.inl (List.mem_singleton.mp member)))⟩
  let string (text : String) := Grammar.string (.plain text)
  let member (name value : String) := Grammar.member .none (.plain name) .none .none (string value)
  let object : Item :=
    ⟨_, .bracketed (.more (member "type" "KEYWORD") .none (.last (member "value" "exit") .none))⟩
  let number : Item := ⟨_, .number ⟨true, ⟨5, []⟩, by decide, none, none⟩⟩
  let pair : Item :=
    ⟨_, .bracketed (.more (.item .none (string "KEYWORD")) space (.last (.item .none .null) .none))⟩
  have first : IsElement (writeToken exit) := ⟨alone object, by decide⟩
  have second : IsElement " -5\n" := ⟨⟨space, number, line⟩, by decide⟩
  have third : IsElement "[\"KEYWORD\" ,null]" := ⟨alone pair, by decide⟩
  have elements : ∀ text ∈ texts, IsElement text := by
    intro text member
    simp only [texts, List.mem_cons, List.not_mem_nil, or_false] at member
    rcases member with rfl | rfl | rfl
    · exact first
    · exact second
    · exact third
  have alike : arrayOf [writeToken exit] = writeTokens [exit] := rfl
  have loaded : Load.tokensOfText (arrayOf [writeToken exit]) = .ok [exit] := by
    rw [alike]
    exact readable_token.load .text (isTokenFile_writeTokens [exit])
  exact ⟨elements, loaded, elements_load texts elements⟩

end Scl.Json

import Mathlib.Tactic.ByContra
import Mathlib.Tactic.SplitIfs
import Scl.Text.AsciiCase
import Scl.Text.LowerCase

/-! # The two foldings agree on plain words

Lower-casing a text and making its letters A to Z small are different functions, and the first does
not even keep the length. They still single out the same spellings of a word that is plain: one
without a `k` and without characters above 127. The only character above 127 whose lower case is
below is the Kelvin sign, which becomes a `k`; every other one leaves a trace above 127. So does a
capital sigma in either of its two small forms, hence it does not matter which one is chosen.
-/

namespace Scl.Text

/-- A character that only the letters A to Z can have become by lower-casing. -/
def IsPlain (c : Char) : Prop :=
  c.toNat < 128 ∧ c ≠ 'k'

instance (c : Char) : Decidable (IsPlain c) :=
  inferInstanceAs (Decidable (_ ∧ _))

theorem toLower_of_not_ascii {c : Char} (high : 128 ≤ c.toNat) : c.toLower = c := by
  refine dif_neg ?_
  rintro ⟨_, small⟩
  have bound : c.toNat ≤ 90 := small
  omega

theorem lowerChar_of_ascii {c : Char} (ascii : c.toNat < 128) : lowerChar c = [c.toLower] := by
  rw [lowerChar, if_pos ascii]

private theorem toNat_ofNat {code : Nat} (valid : code.isValidChar) :
    (Char.ofNat code).toNat = code := by
  have built : Char.ofNat code = Char.ofNatAux code valid := dif_pos valid
  rw [built]
  rfl

/-- The Kelvin sign makes a run of its own. All other runs lead to characters above 127. -/
private theorem lowerRuns_target : ∀ run ∈ lowerRuns,
    (run.first = run.last ∧ run.target = 0x6B) ∨ (128 ≤ run.target ∧
      (run.target + (run.last - run.first) < 0xD800 ∨
        (0xDFFF < run.target ∧ run.target + (run.last - run.first) < 0x110000))) := by
  decide +kernel

private theorem not_isPlain_image {run : LowerRun} {code : Nat} (member : run ∈ lowerRuns)
    (covered : run.covers code = true) : ¬ IsPlain (Char.ofNat (run.image code)) := by
  simp only [LowerRun.covers, Bool.and_eq_true, decide_eq_true_eq] at covered
  obtain ⟨⟨lower, upper⟩, _⟩ := covered
  rcases lowerRuns_target run member with ⟨single, target⟩ | ⟨target, valid⟩
  · have image : run.image code = 0x6B := by unfold LowerRun.image; omega
    rw [image]
    decide
  · have valid : (run.image code).isValidChar := by
      unfold LowerRun.image Nat.isValidChar
      omega
    intro plain
    have small := plain.1
    rw [toNat_ofNat valid, LowerRun.image] at small
    omega

/-- A character above 127 never becomes plain characters alone. -/
theorem exists_mem_lowerChar {c : Char} (high : 128 ≤ c.toNat) :
    ∃ image ∈ lowerChar c, ¬ IsPlain image := by
  rw [lowerChar, if_neg (by omega)]
  split_ifs with dotted
  · exact ⟨Char.ofNat 0x307, by simp, by decide⟩
  · cases found : lowerRuns.find? (·.covers c.toNat) with
    | none => exact ⟨c, by simp, fun plain => by have := plain.1; omega⟩
    | some run =>
      have member := List.mem_of_find?_eq_some found
      have covered := List.find?_some found
      exact ⟨_, by simp, not_isPlain_image member covered⟩

theorem flatMap_lowerChar_of_ascii {chars : List Char} (ascii : ∀ c ∈ chars, c.toNat < 128) :
    chars.flatMap lowerChar = chars.map Char.toLower := by
  induction chars with
  | nil => rfl
  | cons c chars ih =>
    rw [List.flatMap_cons, lowerChar_of_ascii (ascii c (List.mem_cons_self ..)),
      ih fun other member => ascii other (List.mem_cons_of_mem _ member)]
    rfl

/-- A plain word is the lower case of exactly the texts that spell it in small and capital letters
from A to Z. -/
theorem lowerCase_eq_iff {text word : String} (plain : ∀ c ∈ word.toList, IsPlain c) :
    lowerCase text = word ↔ foldAscii text = word.toList := by
  have chars : lowerCase text = word ↔ text.toList.flatMap lowerChar = word.toList := by
    rw [← String.toList_inj, lowerCase, String.toList_ofList]
  rw [chars]
  constructor
  · intro same
    rw [← same, foldAscii]
    refine (flatMap_lowerChar_of_ascii fun c member => ?_).symm
    -- Otherwise `c` leaves a trace that the plain word does not have.
    by_contra high
    obtain ⟨image, inside, trace⟩ := exists_mem_lowerChar (Nat.le_of_not_lt high)
    exact trace (plain image (same ▸ List.mem_flatMap.mpr ⟨c, member, inside⟩))
  · intro same
    rw [← same, foldAscii]
    refine flatMap_lowerChar_of_ascii fun c member => ?_
    by_contra high
    have fixed := toLower_of_not_ascii (Nat.le_of_not_lt high)
    have inside : c.toLower ∈ word.toList := same ▸ List.mem_map_of_mem member
    rw [fixed] at inside
    exact high (plain c inside).1

/-- The lower case of characters that have others before them, the nearest first. Whether a capital
sigma becomes the final form is decided from what stands before and after it. -/
def lowerCharsBy (isFinal : List Char → List Char → Bool) (before : List Char) :
    List Char → List Char
  | [] => []
  | c :: after =>
    (if c = 'Σ' then [if isFinal before after then 'ς' else 'σ'] else lowerChar c) ++
      lowerCharsBy isFinal (c :: before) after

/-- The lower case of a text whose capital sigmas are told apart by a rule. -/
def lowerCaseBy (isFinal : List Char → List Char → Bool) (text : String) : String :=
  String.ofList (lowerCharsBy isFinal [] text.toList)

section Sigma

variable {isFinal : List Char → List Char → Bool}

theorem lowerCharsBy_of_not_mem {before chars : List Char} (none : 'Σ' ∉ chars) :
    lowerCharsBy isFinal before chars = chars.flatMap lowerChar := by
  induction chars generalizing before with
  | nil => rfl
  | cons c chars ih =>
    rw [List.mem_cons, not_or] at none
    obtain ⟨differs, none⟩ := none
    rw [lowerCharsBy, if_neg (Ne.symm differs), ih none, List.flatMap_cons]

theorem exists_mem_lowerCharsBy {before chars : List Char} (member : 'Σ' ∈ chars) :
    ∃ image ∈ lowerCharsBy isFinal before chars, ¬ IsPlain image := by
  induction chars generalizing before with
  | nil => cases member
  | cons c chars ih =>
    rcases List.mem_cons.mp member with rfl | member
    · refine ⟨_, List.mem_append_left _ (List.mem_singleton_self _), ?_⟩
      split_ifs <;> decide
    · obtain ⟨image, inside, trace⟩ := ih member
      exact ⟨image, List.mem_append_right _ inside, trace⟩

theorem exists_mem_sigma : ∃ image ∈ lowerChar 'Σ', ¬ IsPlain image :=
  exists_mem_lowerChar (by decide)

/-- Whatever decides which sigmas are final, a plain word is the lower case of the same texts. -/
theorem lowerCaseBy_eq_iff {text word : String} (plain : ∀ c ∈ word.toList, IsPlain c) :
    lowerCaseBy isFinal text = word ↔ lowerCase text = word := by
  by_cases sigma : 'Σ' ∈ text.toList
  · obtain ⟨image, inside, trace⟩ := exists_mem_lowerCharsBy sigma
    obtain ⟨other, otherInside, otherTrace⟩ := exists_mem_sigma
    constructor
    · rintro rfl
      rw [lowerCaseBy, String.toList_ofList] at plain
      exact absurd (plain image inside) trace
    · rintro rfl
      rw [lowerCase, String.toList_ofList] at plain
      exact absurd (plain other (List.mem_flatMap.mpr ⟨_, sigma, otherInside⟩)) otherTrace
  · rw [lowerCaseBy, lowerCharsBy_of_not_mem sigma, lowerCase]

end Sigma

theorem toList_toLower (text : String) : text.toLower.toList = foldAscii text :=
  String.toList_map

/-- Two spellings are one word when they become the same text. -/
theorem sameWord_iff_toLower {a b : String} :
    sameWord a b = true ↔ a.toLower = b.toLower := by
  rw [sameWord_iff, ← toList_toLower, ← toList_toLower, String.toList_inj]

theorem toLower_eq_self {word : String} (small : foldAscii word = word.toList) :
    word.toLower = word := by
  rw [← String.toList_inj, toList_toLower, small]

/-- Every spelling of a word in small letters becomes this word. -/
theorem toLower_of_sameWord {text word : String} (same : sameWord text word = true)
    (small : foldAscii word = word.toList) : text.toLower = word :=
  (sameWord_iff_toLower.mp same).trans (toLower_eq_self small)

end Scl.Text

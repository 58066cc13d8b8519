import Scl.Keyword
import Scl.Proofs.Text.LowerCase

/-! # Which words are keywords

Looking a word up lower-cases it by the rules for all of Unicode. Every keyword is plain, so the
words found are nevertheless exactly those that spell a keyword up to the case of the letters A to
Z, which is also how the words inside a statement are compared. No word spells two keywords.
-/

namespace Scl

/-- The words that a statement with slots or a placeholder starts with. -/
def keywords : List String :=
  Rule.all.map Rule.keyword ++ reservedWords

namespace Handler

theorem map_fst_table : table.map Prod.fst = keywords := by
  decide

theorem isPlain_of_mem_keywords :
    ∀ keyword ∈ keywords, ∀ c ∈ keyword.toList, Text.IsPlain c := by
  have checked :
      keywords.all (fun keyword => keyword.toList.all fun c => decide (Text.IsPlain c)) = true := by
    decide
  simpa only [List.all_eq_true, decide_eq_true_eq] using checked

theorem foldAscii_of_mem_keywords :
    ∀ keyword ∈ keywords, Text.foldAscii keyword = keyword.toList := by
  decide

theorem lookup_table_iff {word : String} {handler : Handler} :
    table.lookup word = some handler ↔ (word, handler) ∈ table := by
  constructor
  · intro found
    obtain ⟨earlier, later, split, _⟩ := List.lookup_eq_some_iff.mp found
    rw [split]
    exact List.mem_append_right _ (List.mem_cons_self ..)
  · intro member
    obtain ⟨earlier, later, split⟩ := List.append_of_mem member
    refine List.lookup_eq_some_iff.mpr ⟨earlier, later, split, fun entry before => ?_⟩
    have distinct := table_nodup
    rw [split, List.map_append, List.map_cons, List.nodup_append] at distinct
    have differs := distinct.2.2 _ (List.mem_map_of_mem before) word (List.mem_cons_self ..)
    exact bne_iff_ne.mpr differs.symm

/-- Looking up a word finds the handler of the keyword that it spells. -/
theorem lookup_eq_some_iff {word : String} {handler : Handler} :
    lookup word = some handler ↔
      ∃ keyword, (keyword, handler) ∈ table ∧ Text.sameWord word keyword = true := by
  have spells (keyword : String) (entry : (keyword, handler) ∈ table) :
      Text.lowerCase word = keyword ↔ Text.sameWord word keyword = true := by
    have member : keyword ∈ keywords := map_fst_table ▸ List.mem_map_of_mem entry
    rw [Text.lowerCase_eq_iff (isPlain_of_mem_keywords keyword member), Text.sameWord_iff,
      foldAscii_of_mem_keywords keyword member]
  rw [lookup, lookup_table_iff]
  constructor
  · intro entry
    exact ⟨_, entry, (spells _ entry).mp rfl⟩
  · rintro ⟨keyword, entry, same⟩
    rwa [(spells keyword entry).mpr same]

/-- Two spellings of one word have the same handler. -/
theorem lookup_eq_of_sameWord {word other : String} (same : Text.sameWord word other = true) :
    lookup word = lookup other := by
  have folded := Text.sameWord_iff.mp same
  refine Option.ext fun handler => ?_
  simp only [lookup_eq_some_iff, Text.sameWord_iff, folded]

theorem lookup_eq_rule_iff {word : String} {rule : Rule} :
    lookup word = some (.rule rule) ↔ Text.sameWord word rule.keyword = true := by
  simp [lookup_eq_some_iff, table, rule.mem_all]

theorem lookup_eq_placeholder_iff {word reserved : String} :
    lookup word = some (.placeholder reserved) ↔
      reserved ∈ reservedWords ∧ Text.sameWord word reserved = true := by
  simp [lookup_eq_some_iff, table, and_assoc]

theorem lookup_eq_none_iff {word : String} :
    lookup word = none ↔ ∀ keyword ∈ keywords, Text.sameWord word keyword = false := by
  constructor
  · intro absent keyword member
    rw [← map_fst_table] at member
    obtain ⟨⟨_, handler⟩, entry, rfl⟩ := List.mem_map.mp member
    refine Bool.eq_false_iff.mpr fun same => ?_
    rw [lookup_eq_some_iff.mpr ⟨_, entry, same⟩] at absent
    contradiction
  · intro differs
    refine Option.eq_none_iff_forall_ne_some.mpr fun handler found => ?_
    obtain ⟨keyword, entry, same⟩ := lookup_eq_some_iff.mp found
    have member : keyword ∈ keywords := map_fst_table ▸ List.mem_map_of_mem entry
    rw [differs keyword member] at same
    contradiction

end Handler

end Scl

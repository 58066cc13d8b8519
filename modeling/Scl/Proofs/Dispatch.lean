import Scl.Proofs.Keyword
import Scl.Session.Operation

/-! # Dispatch compares words as statements do

The word that starts a statement is lower-cased and looked up in a table; the words inside of a
statement are compared up to the case of the letters A to Z. The two ways single out the same
words. Lower-casing has a rule that looks at the neighbours of a letter, for the capital sigma, so
the look-up is shown not to depend on how this rule decides.
-/

namespace Scl

namespace Handler

/-- No rule for the capital sigma changes what is found. -/
theorem lookup_lowerCaseBy (isFinal : List Char → List Char → Bool) (word : String) :
    table.lookup (Text.lowerCaseBy isFinal word) = lookup word := by
  refine Option.ext fun handler => ?_
  have same (keyword : String) (entry : (keyword, handler) ∈ table) :
      Text.lowerCaseBy isFinal word = keyword ↔ Text.lowerCase word = keyword :=
    Text.lowerCaseBy_eq_iff
      (isPlain_of_mem_keywords keyword (map_fst_table ▸ List.mem_map_of_mem entry))
  rw [lookup, lookup_table_iff, lookup_table_iff]
  constructor
  · intro entry
    rwa [(same _ entry).mp rfl]
  · intro entry
    rwa [(same _ entry).mpr rfl]

/-- Two keywords that one word spells are the same, for keywords are in small letters. -/
theorem keyword_unique {word keyword other : String} (member : keyword ∈ keywords)
    (otherMember : other ∈ keywords) (same : Text.sameWord word keyword = true)
    (otherSame : Text.sameWord word other = true) : keyword = other := by
  rw [Text.sameWord_iff, foldAscii_of_mem_keywords _ member] at same
  rw [Text.sameWord_iff, foldAscii_of_mem_keywords _ otherMember] at otherSame
  exact String.toList_inj.mp (same.symm.trans otherSame)

/-- The handler of a keyword is found exactly for the words that spell it. -/
theorem lookup_eq_some_iff_of_mem {word keyword : String} {handler : Handler}
    (entry : (keyword, handler) ∈ table) :
    lookup word = some handler ↔ Text.sameWord word keyword = true := by
  rcases List.mem_append.mp entry with entry | entry
  · obtain ⟨rule, _, made⟩ := List.mem_map.mp entry
    cases made
    exact lookup_eq_rule_iff
  · obtain ⟨reserved, member, made⟩ := List.mem_map.mp entry
    cases made
    rw [lookup_eq_placeholder_iff, and_iff_right member]

/-- Every character of a word that spells a keyword belongs to ASCII. -/
theorem ascii_of_sameWord {word keyword : String} (member : keyword ∈ keywords)
    (same : Text.sameWord word keyword = true) : ∀ c ∈ word.toList, c.toNat < 128 := by
  intro c inside
  by_contra high
  rw [Text.sameWord_iff, foldAscii_of_mem_keywords _ member] at same
  have image : c.toLower ∈ keyword.toList := same ▸ List.mem_map_of_mem inside
  rw [Text.toLower_of_not_ascii (Nat.le_of_not_lt high)] at image
  exact high (isPlain_of_mem_keywords _ member c image).1

end Handler

/-- Matching a word against the next token is comparing the two up to case. -/
theorem Session.step_matchWord_iff {session : Session} {token : Token} {word : String}
    (next : session.peek = some token) :
    (session.step (.matchWord word)).1 = .flag true ↔ Text.sameWord token.value word = true := by
  obtain ⟨rest, here⟩ := List.head?_eq_some_iff.mp next
  cases same : Text.sameWord token.value word with
  | true => simp [Session.step, Session.perform, Parsing.matchWord, here, same]
  | false => simp [Session.step, Session.perform, Parsing.matchWord, here, same]

/-- Looking a word up finds the handler of a keyword exactly if the word spells that keyword up to
the case of the letters A to Z, which is also how a token is matched against the keyword; and no
word spells two of them. -/
theorem Handler.lookup_exact (isFinal : List Char → List Char → Bool) (word : String) :
    table.lookup (Text.lowerCaseBy isFinal word) = lookup word ∧
    (∀ rule : Rule,
      lookup word = some (.rule rule) ↔ Text.sameWord word rule.keyword = true) ∧
    (∀ reserved, lookup word = some (.placeholder reserved) ↔
      reserved ∈ reservedWords ∧ Text.sameWord word reserved = true) ∧
    (lookup word = none ↔ ∀ keyword ∈ keywords, Text.sameWord word keyword = false) ∧
    (∀ entry ∈ table, ∀ session : Session, session.peek.map Token.value = some word →
      (lookup word = some entry.2 ↔ (session.step (.matchWord entry.1)).1 = .flag true)) ∧
    (∀ keyword ∈ keywords, ∀ other ∈ keywords, Text.sameWord word keyword = true →
      Text.sameWord word other = true → keyword = other) ∧
    table.map Prod.fst = keywords ∧ keywords.Nodup ∧
    ((∃ c ∈ word.toList, 128 ≤ c.toNat) → lookup word = none) := by
  refine ⟨lookup_lowerCaseBy isFinal word, fun rule => lookup_eq_rule_iff,
    fun reserved => lookup_eq_placeholder_iff, lookup_eq_none_iff, ?matched, ?unique,
    map_fst_table, map_fst_table ▸ table_nodup, ?foreign⟩
  case matched =>
    rintro ⟨keyword, handler⟩ entry session next
    obtain ⟨token, first, rfl⟩ := Option.map_eq_some_iff.mp next
    rw [Session.step_matchWord_iff first]
    exact lookup_eq_some_iff_of_mem entry
  case unique =>
    intro keyword member other otherMember same otherSame
    exact keyword_unique member otherMember same otherSame
  case foreign =>
    rintro ⟨c, inside, high⟩
    refine lookup_eq_none_iff.mpr fun keyword member => Bool.eq_false_iff.mpr fun same => ?_
    have ascii := ascii_of_sameWord member same c inside
    omega

/-- `DISPLAY` is looked up and matched as `display`. With a dotted capital I, whose lower case has
an `i` in it, the word is no keyword. -/
theorem Handler.lookup_exact_display :
    let session := Session.start [⟨.identifier, "DISPLAY"⟩] none
    (("display", Handler.rule .display) ∈ table ∧
      session.peek.map Token.value = some "DISPLAY" ∧
      (lookup "DISPLAY" = some (.rule .display) ↔
        (session.step (.matchWord "display")).1 = .flag true)) ∧
    ("display" ∈ keywords ∧ Text.sameWord "DISPLAY" "display" = true ∧
      ∀ other ∈ keywords, Text.sameWord "DISPLAY" other = true → "display" = other) ∧
    (∃ c ∈ "DİSPLAY".toList, 128 ≤ c.toNat) ∧ lookup "DİSPLAY" = none := by
  intro session
  have entry : ("display", Handler.rule .display) ∈ table := by decide
  have member : "display" ∈ keywords := by decide
  have same : Text.sameWord "DISPLAY" "display" = true := by decide
  have foreign : ∃ c ∈ "DİSPLAY".toList, 128 ≤ c.toNat := ⟨'İ', by decide, by decide⟩
  obtain ⟨_, _, _, _, matched, unique, _, _, _⟩ :=
    lookup_exact (fun _ after => after.isEmpty) "DISPLAY"
  obtain ⟨_, _, _, _, _, _, _, _, absent⟩ := lookup_exact (fun _ after => after.isEmpty) "DİSPLAY"
  refine ⟨⟨entry, rfl, matched _ entry session rfl⟩, ⟨member, same, ?_⟩, foreign, absent foreign⟩
  exact fun other otherMember otherSame => unique _ member other otherMember same otherSame

end Scl

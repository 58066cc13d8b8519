import Scl.Json.Token
import Scl.Proofs.Json.Brackets
import Scl.Proofs.Json.Numerals
import Scl.Proofs.Json.Strings

/-! # Well-formed values in the place of others

Where a string or a kind is wanted, any value may stand. Its bytes settle whether it is read as what
was wanted or named in the fault, and the blanks in front of it make no difference. The first byte
of a value says which of the rules of the grammar made it, so the readers are taken through these.
-/

namespace Scl.Json

open Reader

/-- A member of an object. -/
structure Member where
  name : Quoted
  before : Gap
  after : Gap
  value : String
  isValue : IsValue value

namespace Member

def write (member : Member) : String :=
  member.name.write ++ member.before.text ++ ":" ++ member.after.text ++ member.value

theorem exists_of_grammar {entry : String} (grammar : Grammar (.entry .object) entry) :
    ∃ (gap : Gap) (member : Member), entry = gap.text ++ member.write := by
  cases grammar with
  | member gap name before after isValue =>
    refine ⟨gap, ⟨name, before, after, _, isValue⟩, ?_⟩
    simp only [write, String.append_assoc]

def bytes (member : Member) : List UInt8 :=
  quote :: (member.name.inside ++ ((member.before.bytes ++ [':'.toUInt8]) ++
    (member.after.bytes ++ Text.encodeUtf8 member.value)))

theorem encodeUtf8_write (member : Member) : Text.encodeUtf8 member.write = member.bytes := by
  have mark : Text.encodeUtf8 ":" = [':'.toUInt8] := by decide
  simp only [write, bytes, Text.encodeUtf8_append, Gap.encodeUtf8_text,
    Quoted.encodeUtf8_write, mark, List.append_assoc, List.cons_append]

end Member

/-- The bytes of a value, apart from the first one, by how it starts. -/
inductive ValueBytes : UInt8 → List UInt8 → Prop where
  | nullWord : ValueBytes 'n'.toUInt8 (Text.encodeUtf8 "ull")
  | trueWord : ValueBytes 't'.toUInt8 (Text.encodeUtf8 "rue")
  | falseWord : ValueBytes 'f'.toUInt8 (Text.encodeUtf8 "alse")
  | negative (numeral : Numeral) : ValueBytes '-'.toUInt8 numeral.magnitude
  | natural (numeral : Numeral) {others : List UInt8}
    (bytes : numeral.magnitude = digitByte numeral.whole.first :: others) :
    ValueBytes (digitByte numeral.whole.first) others
  | string (quoted : Quoted) : ValueBytes quote quoted.inside
  | empty (bracket : Bracket) (gap : Gap) :
    ValueBytes bracket.opening (gap.bytes ++ [bracket.closing])
  | bracketed {bracket : Bracket} {entries : String}
    (inside : Grammar (.entries bracket) entries) :
    ValueBytes bracket.opening (Text.encodeUtf8 entries ++ [bracket.closing])

theorem exists_valueBytes {value : String} (isValue : IsValue value) :
    ∃ byte others, Text.encodeUtf8 value = byte :: others ∧ ValueBytes byte others := by
  cases isValue with
  | null => exact ⟨_, _, by decide, .nullWord⟩
  | boolean value =>
    cases value with
    | true => exact ⟨_, _, by decide, .trueWord⟩
    | false => exact ⟨_, _, by decide, .falseWord⟩
  | number numeral =>
    rw [numeral.encodeUtf8_write]
    cases numeral.negative with
    | true => exact ⟨_, _, rfl, .negative numeral⟩
    | false => exact ⟨_, _, rfl, .natural numeral rfl⟩
  | string quoted => exact ⟨_, _, quoted.encodeUtf8_write, .string quoted⟩
  | empty bracket gap => exact ⟨_, _, encodeUtf8_bracketed bracket gap.text, .empty bracket gap⟩
  | @bracketed bracket entries inside =>
    exact ⟨_, _, encodeUtf8_bracketed bracket entries, .bracketed inside⟩

namespace ValueBytes

variable {byte : UInt8} {others : List UInt8}

theorem not_isBlank (value : ValueBytes byte others) : isBlank byte = false := by
  cases value with
  | nullWord | trueWord | falseWord | negative | string => decide
  | natural numeral =>
    obtain ⟨_, shown, _⟩ := digitByte_starts numeral.whole.first
    exact shown
  | empty bracket | @bracketed bracket => cases bracket <;> decide

/-- Only one word starts with an `n`, and only strings with a quotation mark. -/
theorem of_mark (value : ValueBytes byte others) (mark : byte ∈ ['n'.toUInt8, quote]) :
    byte = 'n'.toUInt8 ∧ others = Text.encodeUtf8 "ull" ∨
      byte = quote ∧ ∃ quoted : Quoted, others = quoted.inside := by
  cases value with
  | nullWord => exact .inl ⟨rfl, rfl⟩
  | string quoted => exact .inr ⟨rfl, quoted, rfl⟩
  | trueWord | falseWord | negative => exact absurd mark (by decide)
  | natural numeral =>
    obtain ⟨notAmong, _, _⟩ := digitByte_starts numeral.whole.first
    refine (notAmong ?_).elim
    simp only [List.mem_cons, List.not_mem_nil, or_false] at mark ⊢
    rcases mark with same | same
    · exact .inl same
    · simp only [same, or_true]
  | empty bracket | @bracketed bracket => cases bracket <;> exact absurd mark (by decide)

theorem of_quote (value : ValueBytes quote others) :
    ∃ quoted : Quoted, others = quoted.inside := by
  rcases value.of_mark (by decide) with ⟨same, _⟩ | ⟨_, string⟩
  · exact absurd same (by decide)
  · exact string

theorem of_n (value : ValueBytes 'n'.toUInt8 others) : others = Text.encodeUtf8 "ull" := by
  rcases value.of_mark (by decide) with ⟨_, word⟩ | ⟨same, _⟩
  · exact word
  · exact absurd same (by decide)

/-- Behind an opening bracket a value is what the grammar has between brackets, if each of the
entries is a core behind blanks. -/
theorem of_opening {bracket : Bracket} {ι : Type} {write : ι → String}
    (value : ValueBytes bracket.opening others)
    (each : ∀ {entry}, Grammar (.entry bracket) entry →
      ∃ (gap : Gap) (core : ι), entry = gap.text ++ write core) :
    ∃ enclosed : Enclosed ι,
      others = enclosed.bytes (fun core => Text.encodeUtf8 (write core)) ++ [bracket.closing] := by
  generalize same : bracket.opening = byte at value
  cases value with
  | nullWord | trueWord | falseWord | negative | string =>
    cases bracket <;> exact absurd same (by decide)
  | natural numeral =>
    obtain ⟨_, _, notBracket⟩ := digitByte_starts numeral.whole.first
    exact absurd same.symm (notBracket bracket)
  | empty other gap =>
    obtain rfl := Bracket.opening_injective same
    exact ⟨.blanks gap, rfl⟩
  | bracketed inside =>
    obtain rfl := Bracket.opening_injective same
    obtain ⟨first, others, rfl⟩ := Enclosed.exists_of_grammar inside each
    refine ⟨.entries first others, ?_⟩
    rw [Enclosed.encodeUtf8_write]

theorem of_object (value : ValueBytes (Bracket.opening .object) others) :
    ∃ enclosed : Enclosed Member,
      others = enclosed.bytes Member.bytes ++ [Bracket.closing .object] := by
  have opened := value.of_opening Member.exists_of_grammar
  rwa [funext Member.encodeUtf8_write] at opened

end ValueBytes

namespace Reader

variable {α : Type} {byte : UInt8} {others : List UInt8}

/-- The letters of a fixed word are taken in its place. -/
theorem settled_fixed (first : UInt8) (letters : String) (answer : α) :
    Settled Delimited (first :: Text.encodeUtf8 letters) (do
      skip
      word letters
      return answer) := by
  apply Settled.behind_skip
  refine Settled.after_last ?_ fun rest _ => reads_word letters
  exact settled_pure answer

theorem settled_skip_string (quoted : Quoted) {next : String → Reader α}
    (each : ∀ text, Settled Anything [] (next text)) :
    Settled Delimited (quote :: quoted.inside) (skip >>= fun _ => string >>= next) := by
  apply Settled.behind_skip
  exact (quoted.settled_string.bind_last each).weaken fun _ _ => trivial

/-- Whatever value stands in the place of another one is refused: it is named, or its name is not
found. -/
theorem decides_mismatch (value : ValueBytes byte others) (wanted : String) :
    ∃ cause,
      Decides Delimited (byte :: others) (mismatch byte wanted : Reader α) (.error cause) := by
  have named (settled : Settled Delimited (byte :: others) (found byte)) :
      ∃ cause, Decides Delimited (byte :: others) (mismatch byte wanted : Reader α)
        (.error cause) := by
    obtain ⟨outcome, decides⟩ := settled
    cases decides with
    | reads reads =>
      exact ⟨_, .refuses fun rest follows => (reads rest follows).bind_refuses refuses_fail⟩
    | refuses refuses => exact ⟨_, .refuses fun rest follows => (refuses rest follows).bind⟩
  cases value with
  | nullWord => exact named (settled_fixed 'n'.toUInt8 "ull" Found.null)
  | trueWord => exact named (settled_fixed 't'.toUInt8 "rue" (Found.boolean true))
  | falseWord => exact named (settled_fixed 'f'.toUInt8 "alse" (Found.boolean false))
  | negative numeral =>
    apply named
    exact (settled_number true numeral).behind_skip
  | natural numeral bytes =>
    apply named
    obtain ⟨notAmong, _, _⟩ := digitByte_starts numeral.whole.first
    simp only [List.mem_cons, not_or] at notAmong
    obtain ⟨n, t, f, minus, _⟩ := notAmong
    simp only [found, n, t, f, minus, isDigit_digitByte, if_false, if_true]
    rw [← bytes]
    exact settled_number false numeral
  | string quoted =>
    apply named
    exact settled_skip_string quoted fun text => settled_pure (Found.string text)
  | empty bracket | @bracketed bracket =>
    cases bracket <;> exact ⟨_, .refuses fun _ _ => refuses_fail⟩

/-- What a reader does with a value in front of it, whatever blanks stand before the value. -/
def SettledBehindGap (bytes : List UInt8) (reader : Reader α) : Prop :=
  ∃ outcome, ∀ gap : Gap, Decides Delimited (gap.bytes ++ bytes) reader outcome

/-- The blanks before a value make no difference to a reader that starts by looking for it. -/
theorem Settled.behindGap {next : UInt8 → Reader α} (shown : isBlank byte = false)
    (settled : Settled Delimited (byte :: others) (next byte)) :
    SettledBehindGap (byte :: others) (need >>= next) := by
  obtain ⟨outcome, decides⟩ := settled
  exact ⟨outcome, fun gap => decides.of_becomes (becomes_need gap shown) fun _ _ => rfl⟩

/-- Where a string is wanted, a value is settled. -/
theorem settled_text (value : ValueBytes byte others) :
    SettledBehindGap (byte :: others) text := by
  apply Settled.behindGap value.not_isBlank
  split
  · next same =>
    subst same
    obtain ⟨quoted, rfl⟩ := value.of_quote
    have whole := settled_skip_string quoted settled_pure
    rwa [bind_pure] at whole
  · obtain ⟨cause, decides⟩ := decides_mismatch value "a string"
    exact ⟨_, decides⟩

section Kind

theorem settled_kindOfName (name : String) : Settled Anything [] (kindOfName name) := by
  rw [kindOfName]
  split
  · exact settled_pure _
  · exact settled_fail _

/-- What follows the value of a member of an object. -/
def behindMember (behind : Gap) (others : List (Gapped Member)) : List UInt8 :=
  behind.bytes ++ (others.flatMap (comma :: ·.bytes Member.bytes) ++ [Bracket.closing .object])

theorem delimited_behindMember (behind : Gap) (others : List (Gapped Member)) (rest : List UInt8) :
    Delimited (behindMember behind others ++ rest) := by
  rw [behindMember, ← List.append_assoc, List.append_assoc]
  exact delimited_others behind others rfl

/-- An object that stands for a kind has no second member. -/
theorem settled_kindEnd (kind : Token.Kind) (behind : Gap) (others : List (Gapped Member)) :
    Settled Anything (behindMember behind others) (do
      match ← blanks with
      | none => fail .endInObject
      | some byte =>
        if byte ≠ Bracket.closing .object then fail .expectedValue
        skip
        return kind) := by
  cases others with
  | nil =>
    refine Settled.of_becomes ?_ (becomes_blanks behind (isBlank_closing .object)) fun _ _ => rfl
    simp only [ne_eq, not_true_eq_false, if_false]
    exact Settled.after_last (settled_pure _) fun _ _ => reads_skip
  | cons other others =>
    refine Settled.of_becomes ?_ (becomes_blanks behind isBlank_comma) fun _ _ => rfl
    simp only [comma_ne_closing, ne_eq, not_false_eq_true, if_true]
    exact ⟨_, .refuses fun _ _ => refuses_fail.bind⟩

/-- The only value of the member of an object that stands for a kind is the literal for nothing. -/
theorem settled_kindValue (kind : Token.Kind) (after : Gap) (value : ValueBytes byte others)
    (behind : Gap) (members : List (Gapped Member)) :
    Settled Anything (after.bytes ++ ((byte :: others) ++ behindMember behind members)) (do
      let byte ← need
      if byte ≠ 'n'.toUInt8 then mismatch byte "unit"
      skip
      word "ull"
      match ← blanks with
      | none => fail .endInObject
      | some byte =>
        if byte ≠ Bracket.closing .object then fail .expectedValue
        skip
        return kind) := by
  refine Settled.of_becomes ?_ (becomes_need after value.not_isBlank) fun _ _ => rfl
  dsimp only
  split
  · obtain ⟨cause, decides⟩ := decides_mismatch value "unit"
    exact ⟨_, decides.bind_error fun rest _ => delimited_behindMember behind members rest⟩
  · next isN =>
    obtain rfl := Decidable.not_not.mp isN
    obtain rfl := value.of_n
    apply Settled.behind_skip
    apply Settled.behind fun rest => reads_word "ull"
    exact settled_kindEnd kind behind members

/-- Where a kind is wanted, a value is settled. -/
theorem settled_kind (value : ValueBytes byte others) :
    SettledBehindGap (byte :: others) kind := by
  apply Settled.behindGap value.not_isBlank
  split
  · next same =>
    subst same
    obtain ⟨quoted, rfl⟩ := value.of_quote
    exact settled_skip_string quoted settled_kindOfName
  split
  · next same =>
    subst same
    obtain ⟨enclosed, rfl⟩ := value.of_object
    apply Settled.behind_skip
    cases enclosed with
    | blanks gap =>
      refine Settled.of_becomes ?_ (becomes_blanks gap (isBlank_closing .object)) fun _ _ => rfl
      simp only [if_true]
      exact ⟨_, .refuses fun _ _ => refuses_failAhead.bind⟩
    | entries first others =>
      obtain ⟨front, ⟨name, before, after, _, isValue⟩, behind⟩ := first
      obtain ⟨start, tail, bytes, value⟩ := exists_valueBytes isValue
      obtain ⟨shown, notClosing⟩ := opens_quote .object
      have regrouped : (Enclosed.entries ⟨front, ⟨name, before, after, _, isValue⟩, behind⟩
          others).bytes Member.bytes ++ [Bracket.closing .object] =
          front.bytes ++ (quote :: (name.inside ++ ((before.bytes ++ [':'.toUInt8]) ++
            (after.bytes ++ ((start :: tail) ++ behindMember behind others))))) := by
        simp only [Enclosed.bytes, Gapped.bytes, Member.bytes, bytes, behindMember,
          List.append_assoc, List.cons_append, List.nil_append]
      rw [regrouped]
      refine Settled.of_becomes ?_ (becomes_blanks front shown) fun _ _ => rfl
      simp only [notClosing, ne_eq, not_true_eq_false, if_false]
      apply Settled.behind_skip
      refine Settled.bind name.settled_string (fun spelled => ?_) fun _ _ => trivial
      change Settled Delimited ([] ++ _) _
      refine Settled.bind (settled_kindOfName spelled) (fun kind => ?_) fun _ _ => trivial
      refine Settled.of_becomes ?_ (becomes_colon before) fun _ _ => trivial
      exact (settled_kindValue kind after value behind others).weaken fun _ _ => trivial
  · exact settled_failAhead _

end Kind

end Reader

end Scl.Json

import Scl.Proofs.Json.Brackets
import Scl.Proofs.Json.Numerals
import Scl.Proofs.Json.Strings

/-! # Well-formed values are skipped

Skipping keeps no more than the list of the brackets that are open. Behind a value it goes on in the
same way whatever the value was (`resume`), and in front of an entry in the same way whatever the
entry is (`enter`). So what a value comes down to is shown by induction on the grammar, with one
statement for a value, one for an entry and one for all the entries up to the closing bracket. A
value is skipped to its last byte and no further.
-/

namespace Scl.Json

namespace Reader

variable {byte : UInt8}

/-- Skips what is left of the outermost value, if it is not over. -/
def skipLeft : Option (List Bracket) → Reader Unit
  | none => pure ()
  | some left => skipInside left

/-- Goes on behind a value. -/
def resume (opened : List Bracket) : Reader Unit :=
  toNextValue true opened >>= skipLeft

/-- Goes on in front of an entry. -/
def enter (bracket : Bracket) (opened : List Bracket) : Reader Unit := do
  skipName bracket
  skipInside (bracket :: opened)

/-- A byte that starts a value starts an entry. -/
theorem opens_of_valueStart? (starts : (valueStart? byte).isSome) (bracket : Bracket) :
    Opens bracket byte := by
  constructor
  · cases blank : isBlank byte with
    | false => rfl
    | true =>
      simp only [isBlank, Bool.or_eq_true, beq_iff_eq] at blank
      rcases blank with ((rfl | rfl) | rfl) | rfl <;> revert starts <;> decide
  · rintro rfl
    cases bracket <;> revert starts <;> decide

section Steps

variable (bracket : Bracket) (opened : List Bracket) (gap : Gap)

theorem becomes_start {start : ValueStart} (starts : valueStart? byte = some start) :
    Becomes Anything (gap.bytes ++ [byte]) (skipInside opened)
      (skipFrom opened start >>= skipLeft) := by
  have shown : isBlank byte = false := (opens_of_valueStart? (by rw [starts]; rfl) .list).1
  rw [Reader.ext (run_skipInside opened)]
  refine (becomes_need gap shown).trans ?_ fun _ _ => rfl
  simp only [starts]
  exact becomes_skip

/-- A value without brackets is skipped as its first byte says. -/
theorem becomes_scalar {bytes : List UInt8} {others : Reader Unit}
    (starts : valueStart? byte = some (.scalar others))
    (reads : ∀ rest, Delimited rest → Reads (· = bytes ++ rest) others () (· = rest)) :
    Becomes Delimited (gap.bytes ++ byte :: bytes) (skipInside opened) (resume opened) := by
  have scalar : Becomes Delimited bytes (skipFrom opened (.scalar others) >>= skipLeft)
      (resume opened) := by
    rw [skipFrom, bind_assoc]
    exact .of_reads reads
  have whole := (becomes_start opened gap starts).trans scalar fun _ _ => trivial
  rwa [List.append_assoc] at whole

theorem becomes_opening :
    Becomes Anything (gap.bytes ++ [bracket.opening]) (skipInside opened)
      (toNextValue false (bracket :: opened) >>= skipLeft) := by
  have starts : valueStart? bracket.opening = some (.opening bracket) := by
    cases bracket <;> rfl
  exact becomes_start opened gap starts

/-- Behind the closing bracket, the outer value goes on. -/
theorem becomes_closed (behindValue : Bool) :
    Becomes Anything (gap.bytes ++ [bracket.closing])
      (toNextValue behindValue (bracket :: opened) >>= skipLeft) (resume opened) := by
  rw [toNextValue, bind_assoc]
  refine (becomes_blanks gap (isBlank_closing bracket)).trans ?_ fun _ _ => rfl
  simp only [if_true, bind_assoc]
  exact becomes_skip

/-- Behind an opening bracket, the first entry is entered. -/
theorem becomes_first (opens : Opens bracket byte) :
    Becomes (Starting byte) gap.bytes (toNextValue false (bracket :: opened) >>= skipLeft)
      (enter bracket opened) := by
  obtain ⟨shown, other⟩ := opens
  rw [toNextValue, bind_assoc]
  apply (becomes_blanks gap shown).of_eq
  simp only [other, Bool.false_eq_true, if_false, bind_assoc, pure_bind]
  rfl

/-- Behind an entry and a comma, another one is entered. -/
theorem becomes_comma :
    Becomes Anything (gap.bytes ++ [comma]) (resume (bracket :: opened))
      (enter bracket opened) := by
  rw [resume, toNextValue, bind_assoc]
  refine (becomes_blanks gap isBlank_comma).trans ?_ fun _ _ => rfl
  simp only [comma_ne_closing, if_true, if_false, bind_assoc, pure_bind]
  exact becomes_skip

/-- The name of a member is skipped up to its colon. -/
theorem becomes_skipName {next : Unit → Reader Unit} (name : Quoted) (before : Gap) :
    Becomes Anything (gap.bytes ++ (quote :: name.inside ++ (before.bytes ++ [':'.toUInt8])))
      (skipName .object >>= next) (next ()) := by
  have skipped {next : Unit → Reader Unit} :
      Becomes Anything name.inside (skipString >>= next) (next ()) :=
    .of_reads fun rest _ => name.reads_skipString rest
  rw [skipName, bind_assoc]
  refine (becomes_blanks gap (opens_quote .object).1).trans ?_ fun _ _ => rfl
  simp only [ne_eq, not_true_eq_false, if_false, bind_assoc]
  refine (becomes_skip.trans skipped fun _ _ => trivial).trans ?_ fun _ _ => trivial
  exact becomes_colon before

end Steps

/-- Bytes that start like an entry. -/
def Begins (bytes : List UInt8) : Prop :=
  ∃ byte others, bytes = byte :: others ∧ ∀ bracket, Opens bracket byte

theorem Begins.append {bytes : List UInt8} (begins : Begins bytes) (others : List UInt8) :
    Begins (bytes ++ others) := by
  obtain ⟨byte, behind, rfl, opens⟩ := begins
  exact ⟨byte, behind ++ others, rfl, opens⟩

theorem begins_opening (bracket : Bracket) (bytes : List UInt8) :
    Begins (bracket.opening :: bytes) := by
  refine ⟨_, _, rfl, opens_of_valueStart? ?_⟩
  cases bracket <;> decide

theorem begins_quote (bytes : List UInt8) : Begins (quote :: bytes) :=
  ⟨_, _, rfl, opens_quote⟩

/-- What skipping makes of the bytes of a part of the grammar. The blanks in front of an entry may
be skipped before it is entered, so they are left open. -/
def Skips : Part → List UInt8 → Prop
  | .value, bytes => Begins bytes ∧ ∀ (gap : Gap) opened,
      Becomes Delimited (gap.bytes ++ bytes) (skipInside opened) (resume opened)
  | .entry bracket, bytes => ∃ (front : Gap) (body : List UInt8), bytes = front.bytes ++ body ∧
      Begins body ∧ ∀ (gap : Gap) opened,
        Becomes Delimited (gap.bytes ++ body) (enter bracket opened) (resume (bracket :: opened))
  | .entries bracket, bytes => ∃ (front : Gap) (body : List UInt8), bytes = front.bytes ++ body ∧
      Begins body ∧ ∀ (gap : Gap) opened,
        Becomes Anything (gap.bytes ++ (body ++ [bracket.closing])) (enter bracket opened)
          (resume opened)

section Scalars

theorem skips_scalar {bytes : List UInt8} {others : Reader Unit}
    (starts : valueStart? byte = some (.scalar others))
    (reads : ∀ rest, Delimited rest → Reads (· = bytes ++ rest) others () (· = rest)) :
    Skips .value (byte :: bytes) := by
  refine ⟨⟨byte, bytes, rfl, opens_of_valueStart? ?_⟩, ?_⟩
  · rw [starts]
    rfl
  · intro gap opened
    exact becomes_scalar opened gap starts reads

/-- A literal is its first byte and a word behind it. -/
theorem skips_literal {text : String} (first : UInt8) (letters : String)
    (bytes : Text.encodeUtf8 text = first :: Text.encodeUtf8 letters)
    (starts : valueStart? first = some (.scalar (word letters))) :
    Skips .value (Text.encodeUtf8 text) := by
  rw [bytes]
  exact skips_scalar starts fun rest _ => reads_word letters

theorem valueStart?_digitByte (digit : Fin 10) :
    valueStart? (digitByte digit) = some (.scalar (skipNumber (digitByte digit))) := by
  obtain ⟨notAmong, _, _⟩ := digitByte_starts digit
  simp only [List.mem_cons, not_or] at notAmong
  obtain ⟨n, t, f, minus, _⟩ := notAmong
  simp only [valueStart?, n, t, f, minus, isDigit_digitByte, if_false, if_true]

theorem skips_numeral (numeral : Numeral) :
    Skips .value (Text.encodeUtf8 numeral.write) := by
  have regrouped (rest : List UInt8) : numeral.magnitude ++ rest =
      digitByte numeral.whole.first :: (numeral.whole.others.map digitByte ++
        (fractionBytes numeral.fraction? ++ (exponentBytes numeral.exponent? ++ rest))) := by
    simp only [Numeral.magnitude, Digits.bytes, List.cons_append, List.append_assoc]
  rw [numeral.encodeUtf8_write]
  cases numeral.negative with
  | true =>
    refine skips_scalar rfl fun rest delimited => ?_
    change Reads (· = numeral.magnitude ++ rest) _ _ _
    rw [regrouped]
    exact (reads_digit _ _).bind (reads_skipNumber numeral delimited)
  | false =>
    refine skips_scalar (valueStart?_digitByte _) fun rest delimited => ?_
    change Reads (· = numeral.whole.others.map digitByte ++ (fractionBytes numeral.fraction? ++
      exponentBytes numeral.exponent?) ++ rest) _ _ _
    rw [List.append_assoc, List.append_assoc]
    exact reads_skipNumber numeral delimited

theorem skips_quoted (quoted : Quoted) : Skips .value (Text.encodeUtf8 quoted.write) := by
  rw [quoted.encodeUtf8_write]
  exact skips_scalar rfl fun rest _ => quoted.reads_skipString rest

end Scalars

section Nested

variable {bracket : Bracket} {bytes others : List UInt8}

theorem skips_empty (bracket : Bracket) (gap : Gap) :
    Skips .value (bracket.opening :: (gap.bytes ++ [bracket.closing])) := by
  refine ⟨begins_opening bracket _, fun outer opened => ?_⟩
  have whole := (becomes_opening bracket opened outer).trans
    (becomes_closed bracket opened gap false) fun _ _ => trivial
  rw [List.append_assoc] at whole
  exact whole.weaken fun _ _ => trivial

/-- Behind the opening bracket the first entry is entered without blanks, which are skipped before
it is known that there is one. -/
theorem skips_bracketed (inside : Skips (.entries bracket) bytes) :
    Skips .value (bracket.opening :: (bytes ++ [bracket.closing])) := by
  obtain ⟨front, _, rfl, ⟨byte, body, rfl, opens⟩, becomes⟩ := inside
  refine ⟨begins_opening bracket _, fun outer opened => ?_⟩
  have entered := (becomes_opening bracket opened outer).trans
    (becomes_first bracket opened front (opens bracket)) fun _ _ => trivial
  have whole := entered.trans (becomes Gap.none opened) fun _ _ => rfl
  rw [List.append_assoc]
  simp only [List.append_assoc] at whole
  exact whole.weaken fun _ _ => trivial

theorem skips_item (gap : Gap) (value : Skips .value bytes) :
    Skips (.entry .list) (gap.bytes ++ bytes) := by
  obtain ⟨begins, becomes⟩ := value
  exact ⟨gap, bytes, rfl, begins, fun outer opened => becomes outer (.list :: opened)⟩

theorem skips_member (gap : Gap) (name : Quoted) (before after : Gap)
    (value : Skips .value bytes) :
    Skips (.entry .object) (gap.bytes ++ (quote :: name.inside ++ (before.bytes ++
      [':'.toUInt8] ++ (after.bytes ++ bytes)))) := by
  obtain ⟨_, becomes⟩ := value
  refine ⟨gap, _, rfl, begins_quote _, fun outer opened => ?_⟩
  have named : Becomes Anything _ (enter .object opened) (skipInside (.object :: opened)) :=
    becomes_skipName outer name before
  have whole := named.trans (becomes after (.object :: opened)) fun _ _ => trivial
  simpa only [List.append_assoc] using whole

theorem skips_last (first : Skips (.entry bracket) bytes) (gap : Gap) :
    Skips (.entries bracket) (bytes ++ gap.bytes) := by
  obtain ⟨front, body, rfl, begins, becomes⟩ := first
  refine ⟨front, _, List.append_assoc .., begins.append _, fun outer opened => ?_⟩
  have ends (rest : List UInt8) : Delimited (gap.bytes ++ [bracket.closing] ++ rest) := by
    rw [List.append_assoc]
    exact Delimited.append gap.isBlank_of_mem (delimited_closing bracket rest)
  have whole := (becomes outer opened).trans (becomes_closed bracket opened gap true)
    fun rest _ => ends rest
  simpa only [List.append_assoc] using whole

theorem skips_more (first : Skips (.entry bracket) bytes) (gap : Gap)
    (later : Skips (.entries bracket) others) :
    Skips (.entries bracket) (bytes ++ (gap.bytes ++ [comma] ++ others)) := by
  obtain ⟨front, body, rfl, begins, becomes⟩ := first
  obtain ⟨next, behind, rfl, _, becomesLater⟩ := later
  refine ⟨front, _, List.append_assoc .., begins.append _, fun outer opened => ?_⟩
  have ends (rest : List UInt8) : Delimited (gap.bytes ++ [comma] ++ rest) := by
    rw [List.append_assoc]
    exact Delimited.append gap.isBlank_of_mem (delimited_comma rest)
  have passed := (becomes outer opened).trans (becomes_comma bracket opened gap)
    fun rest _ => ends rest
  have whole := passed.trans (becomesLater next opened) fun _ _ => trivial
  simpa only [List.append_assoc] using whole

end Nested

/-- Every part of the grammar is skipped as a whole, by induction on it. -/
theorem skips_of_grammar {part : Part} {text : String} (grammar : Grammar part text) :
    Skips part (Text.encodeUtf8 text) := by
  induction grammar with
  | null => exact skips_literal 'n'.toUInt8 "ull" (by decide) rfl
  | boolean value =>
    cases value with
    | true => exact skips_literal 't'.toUInt8 "rue" (by decide) rfl
    | false => exact skips_literal 'f'.toUInt8 "alse" (by decide) rfl
  | number numeral => exact skips_numeral numeral
  | string quoted => exact skips_quoted quoted
  | empty bracket gap =>
    rw [encodeUtf8_bracketed]
    exact skips_empty bracket gap
  | bracketed _ ih =>
    rw [encodeUtf8_bracketed]
    exact skips_bracketed ih
  | item gap _ ih =>
    rw [Text.encodeUtf8_append]
    exact skips_item gap ih
  | member gap name before after _ ih =>
    have mark : Text.encodeUtf8 ":" = [':'.toUInt8] := by decide
    have whole := skips_member gap name before after ih
    simpa only [Text.encodeUtf8_append, Gap.encodeUtf8_text, name.encodeUtf8_write, mark,
      List.append_assoc] using whole
  | last _ gap ih =>
    rw [Text.encodeUtf8_append]
    exact skips_last ih gap
  | more _ gap _ ih ihLater =>
    have mark : Text.encodeUtf8 "," = [comma] := by decide
    have whole := skips_more ih gap ihLater
    simpa only [Text.encodeUtf8_append, Gap.encodeUtf8_text, mark, List.append_assoc] using whole

/-- A value is skipped, with the blanks in front of it. -/
theorem decides_skipValue {value : String} (isValue : IsValue value) (gap : Gap) :
    Decides Delimited (gap.bytes ++ Text.encodeUtf8 value) skipValue (.ok ()) := by
  obtain ⟨_, becomes⟩ := skips_of_grammar isValue
  have ended : resume [] = pure () := rfl
  refine .reads fun rest delimited => ?_
  apply (becomes gap []).reads delimited
  rw [ended]
  exact .pure ()

end Reader

end Scl.Json

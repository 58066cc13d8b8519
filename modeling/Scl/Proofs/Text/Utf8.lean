import Scl.Text.Utf8

/-! # Texts and their bytes

Decoding the bytes of a text gives the text back. A character of ASCII is one byte with its own
number, and the bytes of any other character lie above all of ASCII; so a reader that looks for an
ASCII byte never stops inside of a character, and at such a byte a text is cut into two texts.
-/

namespace Scl.Text

theorem encodeUtf8_append (text other : String) :
    encodeUtf8 (text ++ other) = encodeUtf8 text ++ encodeUtf8 other := by
  rw [encodeUtf8, String.toList_append, List.flatMap_append]
  rfl

theorem encodeUtf8_toString (c : Char) : encodeUtf8 c.toString = String.utf8EncodeChar c := by
  rw [encodeUtf8, Char.toString_eq_singleton, String.toList_singleton, List.flatMap_singleton]

theorem encodeUtf8_join (texts : List String) :
    encodeUtf8 (String.join texts) = texts.flatMap encodeUtf8 := by
  induction texts with
  | nil => rfl
  | cons text texts ih =>
    rw [String.join_cons, encodeUtf8_append, ih, List.flatMap_cons]

/-- The first text is not among the others, so that the induction can move on to the next one. -/
theorem encodeUtf8_intercalate_cons (between text : String) (texts : List String) :
    encodeUtf8 (between.intercalate (text :: texts)) =
      encodeUtf8 text ++ texts.flatMap fun text => encodeUtf8 between ++ encodeUtf8 text := by
  induction texts generalizing text with
  | nil => rw [String.intercalate_singleton, List.flatMap_nil, List.append_nil]
  | cons next texts ih =>
    rw [String.intercalate_cons_cons, encodeUtf8_append, encodeUtf8_append, ih, List.flatMap_cons,
      List.append_assoc, List.append_assoc]

/-- Characters of one byte each make a text of as many bytes. -/
theorem encodeUtf8_ofList_map {α : Type} {char : α → Char} {byte : α → UInt8}
    (single : ∀ a, String.utf8EncodeChar (char a) = [byte a]) (list : List α) :
    encodeUtf8 (String.ofList (list.map char)) = list.map byte := by
  rw [encodeUtf8, String.toList_ofList, List.flatMap_map, List.map_eq_flatMap]
  simp only [single]

theorem decodeUtf8_encodeUtf8 (text : String) : decodeUtf8 (encodeUtf8 text) = .ok text := by
  have bytes : (encodeUtf8 text).toByteArray = text.toByteArray := String.utf8Encode_toList
  have valid : text.toByteArray.IsValidUTF8 := text.isValidUTF8
  simp only [decodeUtf8, bytes, String.fromUTF8?, dif_pos valid]
  rfl

theorem trustUtf8_encodeUtf8 (text : String) : trustUtf8 (encodeUtf8 text) = text := by
  rw [trustUtf8, decodeUtf8_encodeUtf8]

/-- The bytes of a character are its number, if it belongs to ASCII, and lie above it otherwise. -/
theorem mem_utf8EncodeChar {c : Char} {byte : UInt8} (member : byte ∈ String.utf8EncodeChar c) :
    (byte.toNat = c.toNat ∧ c.toNat < 128) ∨ 128 ≤ byte.toNat := by
  have number : c.val.toNat = c.toNat := rfl
  unfold String.utf8EncodeChar at member
  simp only [number] at member
  split at member
  · have same := congrArg UInt8.toNat (List.mem_singleton.mp member)
    rw [UInt8.toNat_ofNat'] at same
    left
    omega
  -- Every byte of a longer encoding is made with an offset of 128 or more.
  · right
    have high {offset rest : Nat} (above : 128 ≤ offset) (fits : rest + offset < 256)
        (made : byte = UInt8.ofNat (rest + offset)) : 128 ≤ byte.toNat := by
      rw [made, UInt8.toNat_ofNat', Nat.mod_eq_of_lt fits]
      omega
    split at member
    · simp only [List.mem_cons, List.not_mem_nil, or_false] at member
      rcases member with made | made <;> exact high (by omega) (by omega) made
    · split at member
      · simp only [List.mem_cons, List.not_mem_nil, or_false] at member
        rcases member with made | made | made <;> exact high (by omega) (by omega) made
      · simp only [List.mem_cons, List.not_mem_nil, or_false] at member
        rcases member with made | made | made | made <;> exact high (by omega) (by omega) made

/-- A byte of ASCII in a character is all of the character. -/
theorem utf8EncodeChar_of_mem_ascii {c : Char} {byte : UInt8}
    (member : byte ∈ String.utf8EncodeChar c) (ascii : byte.toNat < 128) :
    String.utf8EncodeChar c = [byte] := by
  have small : c.val.toNat ≤ 127 := by
    rcases mem_utf8EncodeChar member with ⟨_, small⟩ | high
    · exact Nat.le_of_lt_succ small
    · omega
  rw [String.utf8EncodeChar] at member ⊢
  simp only [small, if_true] at member ⊢
  rw [List.mem_singleton.mp member]

/-- The bytes of a text. -/
def IsText (bytes : List UInt8) : Prop :=
  ∃ chars : List Char, chars.flatMap String.utf8EncodeChar = bytes

/-- The last bytes of a text, which may begin inside of a character. -/
def IsTextEnd (bytes : List UInt8) : Prop :=
  ∃ front, IsText (front ++ bytes)

theorem isText_encodeUtf8 (text : String) : IsText (encodeUtf8 text) :=
  ⟨text.toList, rfl⟩

theorem isText_utf8EncodeChar (c : Char) : IsText (String.utf8EncodeChar c) :=
  ⟨[c], List.flatMap_singleton ..⟩

theorem isText_nil : IsText [] :=
  ⟨[], rfl⟩

/-- A byte of ASCII is a text. -/
theorem isText_ascii {byte : UInt8} (ascii : byte.toNat < 128) : IsText [byte] := by
  refine ⟨[Char.ofNat byte.toNat], ?_⟩
  have small : (Char.ofNat byte.toNat).val.toNat = byte.toNat := by
    have valid : byte.toNat.isValidChar := .inl (by omega)
    have built : Char.ofNat byte.toNat = Char.ofNatAux byte.toNat valid := dif_pos valid
    rw [built]
    rfl
  rw [List.flatMap_singleton, String.utf8EncodeChar]
  simp only [small, Nat.le_of_lt_succ ascii, if_true, UInt8.ofNat_toNat]

namespace IsText

variable {bytes front rest : List UInt8} {byte : UInt8}

theorem exists_text (isText : IsText bytes) : ∃ text, encodeUtf8 text = bytes := by
  obtain ⟨chars, rfl⟩ := isText
  exact ⟨String.ofList chars, by rw [encodeUtf8, String.toList_ofList]⟩

theorem append (isText : IsText front) (other : IsText rest) : IsText (front ++ rest) := by
  obtain ⟨chars, rfl⟩ := isText
  obtain ⟨others, rfl⟩ := other
  exact ⟨chars ++ others, List.flatMap_append⟩

theorem isTextEnd (isText : IsText bytes) : IsTextEnd bytes :=
  ⟨[], isText⟩

/-- A byte of ASCII cuts a text into two texts, by induction on the characters before it. -/
theorem of_append_cons (isText : IsText (front ++ byte :: rest)) (ascii : byte.toNat < 128) :
    IsText front ∧ IsText rest := by
  obtain ⟨chars, same⟩ := isText
  induction chars generalizing front with
  | nil => simp at same
  | cons c chars ih =>
    rw [List.flatMap_cons] at same
    rcases List.append_eq_append_iff.mp same with ⟨later, rfl, behind⟩ | ⟨middle, encoded, behind⟩
    · obtain ⟨before, after⟩ := ih behind
      exact ⟨(isText_utf8EncodeChar c).append before, after⟩
    · cases middle with
      | nil =>
        rw [List.append_nil] at encoded
        rw [← List.nil_append (byte :: rest)] at behind
        obtain ⟨_, after⟩ := ih behind.symm
        exact ⟨encoded ▸ isText_utf8EncodeChar c, after⟩
      | cons first middle =>
        obtain ⟨rfl, rfl⟩ := List.cons.inj behind
        have member : byte ∈ String.utf8EncodeChar c := by
          rw [encoded]
          simp
        have single := utf8EncodeChar_of_mem_ascii member ascii
        rw [encoded, List.append_eq_singleton_iff] at single
        rcases single with ⟨rfl, single⟩ | ⟨_, none⟩
        · obtain ⟨_, rfl⟩ := List.cons.inj single
          exact ⟨isText_nil, chars, rfl⟩
        · cases none

/-- A text begins behind bytes of ASCII. -/
theorem of_ascii_append (isText : IsText (front ++ rest))
    (ascii : ∀ byte ∈ front, byte.toNat < 128) : IsText rest := by
  induction front with
  | nil => exact isText
  | cons byte front ih =>
    have small := ascii byte (List.mem_cons_self ..)
    rw [List.cons_append, ← List.nil_append (byte :: _)] at isText
    have behind := (isText.of_append_cons small).2
    exact ih behind fun other member => ascii other (List.mem_cons_of_mem _ member)

end IsText

namespace IsTextEnd

variable {bytes front rest : List UInt8} {byte : UInt8}

theorem of_append (isTextEnd : IsTextEnd (front ++ rest)) : IsTextEnd rest := by
  obtain ⟨before, isText⟩ := isTextEnd
  exact ⟨before ++ front, by rwa [List.append_assoc]⟩

theorem tail (isTextEnd : IsTextEnd (byte :: rest)) : IsTextEnd rest := by
  rw [← List.singleton_append] at isTextEnd
  exact isTextEnd.of_append

/-- A text begins behind a byte of ASCII. -/
theorem isText_tail (isTextEnd : IsTextEnd (byte :: rest)) (ascii : byte.toNat < 128) :
    IsText rest := by
  obtain ⟨before, isText⟩ := isTextEnd
  exact (isText.of_append_cons ascii).2

end IsTextEnd

end Scl.Text

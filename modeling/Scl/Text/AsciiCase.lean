/-! # Words up to the case of the letters A to Z

Two spellings are one word when they agree after the 26 capital letters are made small. No other
character has a case here: `É` and `é` are different words.
-/

namespace Scl.Text

/-- The characters of a text, with the letters A to Z made small. -/
def foldAscii (text : String) : List Char :=
  text.toList.map Char.toLower

/-- Whether two spellings are one word. -/
def sameWord (a b : String) : Bool :=
  foldAscii a == foldAscii b

theorem sameWord_iff {a b : String} : sameWord a b = true ↔ foldAscii a = foldAscii b :=
  beq_iff_eq

theorem sameWord_refl (a : String) : sameWord a a = true :=
  sameWord_iff.2 rfl

end Scl.Text

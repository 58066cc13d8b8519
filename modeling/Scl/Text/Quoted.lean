import Scl.Text.Visible

/-! # Quoted text in messages

A message quotes a text between double quotes, in such a way that every character can be seen:
quotes and backslashes get a backslash, and a hidden character is written by its letter (`\n`,
`\r`, `\t`, `\0`) or by its number.
-/

namespace Scl.Text

def hex (n : Nat) : String :=
  String.ofList (Nat.toDigits 16 n)

/-- A character by its number. -/
def byNumber (c : Char) : String :=
  "\\u\x7b" ++ hex c.toNat ++ "\x7d"

def quotedChar (c : Char) : String :=
  if c = '"' then "\\\""
  else if c = '\\' then "\\\\"
  else if c = '\n' then "\\n"
  else if c = '\r' then "\\r"
  else if c = '\t' then "\\t"
  else if c = '\x00' then "\\0"
  else if isVisible c then c.toString
  else byNumber c

def quoted (text : String) : String :=
  "\"" ++ String.join (text.toList.map quotedChar) ++ "\""

end Scl.Text

/-! # Bytes as text

Text is read from its UTF-8 bytes. Bytes that are no text have a longest beginning that is one, and
its length says where the first fault lies.
-/

namespace Scl.Text

/-- The number of bytes up to the first, at or after `start`, with which no character begins. -/
def validLength (bytes : ByteArray) (start : Nat) : Nat :=
  match decoded : bytes.utf8DecodeChar? start with
  | none => start
  | some c =>
    have := ByteArray.le_size_of_utf8DecodeChar?_eq_some decoded
    have := c.utf8Size_pos
    validLength bytes (start + c.utf8Size)
termination_by bytes.size - start

/-- The text of some bytes, or the length of their longest beginning that is text. -/
def decodeUtf8 (bytes : List UInt8) : Except Nat String :=
  let bytes := bytes.toByteArray
  match String.fromUTF8? bytes with
  | some text => .ok text
  | none => .error (validLength bytes 0)

/-- The text of bytes that are known to be one. -/
def trustUtf8 (bytes : List UInt8) : String :=
  match decodeUtf8 bytes with
  | .ok text => text
  | .error _ => ""

def encodeUtf8 (text : String) : List UInt8 :=
  text.toList.flatMap String.utf8EncodeChar

end Scl.Text

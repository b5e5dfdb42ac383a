/-!
# UTF-8

Characters as bytes, and back.
-/

namespace LoaderGen.Text

/-- The bytes of a character. -/
def utf8Bytes (c : Char) : List UInt8 := String.utf8EncodeChar c

/-- The bytes of a text. -/
def bytesOf (text : String) : List UInt8 := text.toList.flatMap utf8Bytes

/-- The text with the given bytes, unless they are no valid encoding. -/
def ofBytes? (bytes : List UInt8) : Option String := String.fromUTF8? ⟨bytes.toArray⟩

end LoaderGen.Text

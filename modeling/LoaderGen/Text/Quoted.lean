import LoaderGen.Text.Printable

/-!
# Quoted text

A text between double quotes in which every character can be seen. The two characters with a
meaning inside quotes, and the usual controls, have short escapes; all else that cannot be shown is
written by its code point.
-/

namespace LoaderGen.Text.Quoted

/-- The code point of a character between braces. -/
def codePoint (c : Char) : List Char :=
  ['\\', 'u', '\x7b'] ++ Nat.toDigits 16 c.toNat ++ ['\x7d']

/-- What stands for one character inside the quotes. -/
def escape (c : Char) : List Char :=
  if c = '\x00' then ['\\', '0']
  else if c = '\t' then ['\\', 't']
  else if c = '\r' then ['\\', 'r']
  else if c = '\n' then ['\\', 'n']
  else if c = '"' || c = '\\' then ['\\', c]
  else if isPrintable c && (!isCombining c || isHalfwidthMark c) then [c]
  else codePoint c

/-- The text between quotes. -/
def encode (text : String) : String :=
  String.ofList ('"' :: text.toList.flatMap escape ++ ['"'])

end LoaderGen.Text.Quoted

import LoaderGen.Value.Basic

/-!
# Writing JSON

Values as JSON over several lines, two spaces to a level. Only quotes, backslashes and controls are
escaped.
-/

namespace LoaderGen.Json

def hexDigits (n : Nat) : List Char :=
  let ds := Nat.toDigits 16 n
  List.replicate (4 - ds.length) '0' ++ ds

/-- What stands for one character inside quotes. -/
def escape (c : Char) : List Char :=
  if c = '"' then ['\\', '"']
  else if c = '\\' then ['\\', '\\']
  else if c = '\x08' then ['\\', 'b']
  else if c = '\t' then ['\\', 't']
  else if c = '\n' then ['\\', 'n']
  else if c = '\x0c' then ['\\', 'f']
  else if c = '\r' then ['\\', 'r']
  else if c.toNat < 0x20 then ['\\', 'u'] ++ hexDigits c.toNat
  else [c]

/-- A text between quotes. -/
def quote (s : String) : String := String.ofList ('"' :: s.toList.flatMap escape ++ ['"'])

/-- A new line, indented for the level. -/
def newLine (level : Nat) : String := "\n" ++ String.ofList (List.replicate (2 * level) ' ')

mutual

/-- The value, the lines after its first one indented for the level. -/
def pretty (level : Nat) : Value → String
  | .null => "null"
  | .bool b => if b then "true" else "false"
  | .int n => toString n
  | .real literal => literal
  | .text s => quote s
  | .list [] => "[]"
  | .list (item :: items) =>
    "[" ++ newLine (level + 1) ++ pretty (level + 1) item ++ prettyItems (level + 1) items ++
      newLine level ++ "]"
  | .record [] => "\x7b\x7d"
  | .record ((key, v) :: fields) =>
    "\x7b" ++ newLine (level + 1) ++ quote key ++ ": " ++ pretty (level + 1) v ++
      prettyFields (level + 1) fields ++ newLine level ++ "\x7d"
  | .unusable | .malformed => "null"

/-- The items after the first one. -/
def prettyItems (level : Nat) : List Value → String
  | [] => ""
  | item :: items => "," ++ newLine level ++ pretty level item ++ prettyItems level items

/-- The fields after the first one. -/
def prettyFields (level : Nat) : List (String × Value) → String
  | [] => ""
  | (key, v) :: fields =>
    "," ++ newLine level ++ quote key ++ ": " ++ pretty level v ++ prettyFields level fields

end

end LoaderGen.Json

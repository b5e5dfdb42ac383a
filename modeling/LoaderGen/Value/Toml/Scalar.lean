import LoaderGen.Value.Toml.Moment

/-!
# Scalars of TOML

Numbers, booleans and moments, which are written without quotes. The first characters of such a word
tell which of them it is.
-/

namespace LoaderGen.Toml

/-- The base of the whole numbers that start with `0` and this mark. -/
def baseOf? (mark : Char) : Option Nat := [('x', 16), ('o', 8), ('b', 2)].lookup mark

/-- A word that starts with a digit or an underscore after its sign, `magnitude` being the word
without the sign. What follows the first digits decides. -/
def numeral? (word magnitude : List Char) : Option Value :=
  let rest := magnitude.dropWhile Char.isDigit
  if rest.isEmpty then decimalNumber? word magnitude
  else if rest.head? = some '-' ∨ rest.head? = some ':' then (moment? word).map Moment.toValue
  else if rest.contains ' ' then none
  else if rest.any fun c => c = '.' || isExponentMark c then floatNumber? word magnitude
  else if rest.head? = some '_' then decimalNumber? word magnitude
  else none

/-- The value of a word without quotes. -/
def scalar? (word : List Char) : Option Value :=
  let magnitude := (takeSign word).2
  if word = "true".toList then some (.bool true)
  else if word = "false".toList then some (.bool false)
  else if magnitude = "inf".toList ∨ magnitude = "nan".toList then
    some (.real (String.ofList word))
  else
    match magnitude with
    | '0' :: mark :: digits =>
      match baseOf? mark with
      | some base => if magnitude = word then basedNumber? base digits else none
      | none => numeral? word magnitude
    | c :: _ => if isDigitOrUnderscore c then numeral? word magnitude else none
    | [] => none

end LoaderGen.Toml

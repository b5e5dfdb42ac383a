import LoaderGen.Number.Double
import LoaderGen.Text.Split
import LoaderGen.Value.Basic

/-!
# Numbers of TOML

Whole numbers in four bases and numbers with a fraction or an exponent, with underscores between
digits. What does not have the form of a number is refused. What has the form but no value, such as
a number beyond any width, is read as malformed: it is refused only where it is looked at.
-/

namespace LoaderGen.Toml

def digitValue (c : Char) : Nat :=
  if c.isDigit then c.toNat - '0'.toNat else c.toLower.toNat - 'a'.toNat + 10

def isDigitIn (base : Nat) (c : Char) : Bool := c.isAlphanum && digitValue c < base

def valueInBase (base : Nat) (ds : List Char) : Nat :=
  ds.foldl (fun n d => base * n + digitValue d) 0

/-- A sign before a number: whether it is a minus, and what follows. -/
def takeSign : List Char → Bool × List Char
  | '-' :: rest => (true, rest)
  | '+' :: rest => (false, rest)
  | cs => (false, cs)

/-- A whole number, unusable beyond 64 bits and malformed beyond 128. -/
def intValue (n : Int) : Value :=
  if -9223372036854775808 ≤ n ∧ n ≤ 18446744073709551615 then .int n
  else if (-n).toNat ≤ Nat.pow 2 127 ∧ n.toNat < Nat.pow 2 128 then .unusable
  else .malformed

/-- The value of a whole number without underscores; malformed without digits or with other
characters. -/
def wholeValue (base : Nat) (cs : List Char) : Value :=
  let (negative, ds) := takeSign cs
  let n : Int := valueInBase base ds
  if ds.isEmpty || !ds.all (isDigitIn base) then .malformed
  else intValue (if negative then -n else n)

def withoutUnderscores (cs : List Char) : List Char := cs.filter (· != '_')

/-- Every underscore stands between two digits, or right after a single character such as a sign. -/
def underscoresFit (isDigit : Char → Bool) (cs : List Char) : Bool :=
  let groups := cs.splitOn '_'
  let startsWell (group : List Char) := (group.head?.map isDigit).getD false
  let endsWell (group : List Char) :=
    group.length == 1 || (group.getLast?.map isDigit).getD false
  groups.length == 1 || (groups.tail.all startsWell && groups.dropLast.all endsWell)

/-- A whole number after the mark of its base, which takes no sign. -/
def basedNumber? (base : Nat) (cs : List Char) : Option Value := do
  guard (cs.all fun c => isDigitIn base c || c = '_')
  guard (underscoresFit (isDigitIn 16) cs)
  return wholeValue base (withoutUnderscores cs)

/-- A decimal whole number with its sign, `magnitude` being the number without it. In it letters
that are digits of another base can stand beside an underscore, but such a number is malformed. -/
def decimalNumber? (word magnitude : List Char) : Option Value := do
  guard (magnitude.length = 1 ∨ magnitude.head? ≠ some '0')
  guard (underscoresFit (isDigitIn 16) word)
  return wholeValue 10 (withoutUnderscores word)

def isDigitOrUnderscore (c : Char) : Bool := c.isDigit || c = '_'

/-- What follows a run of digits and underscores with at least one digit. -/
def afterDigits? (cs : List Char) : Option (List Char) := do
  guard ((cs.takeWhile isDigitOrUnderscore).any Char.isDigit)
  return cs.dropWhile isDigitOrUnderscore

/-- The part of a number before its fraction has no needless zero before it. -/
def hasPlainMantissa (cs : List Char) : Bool :=
  let mantissa := cs.takeWhile isDigitOrUnderscore
  mantissa.head? != some '0' || mantissa.countP Char.isDigit == 1

/-- What follows a fraction, if there is one. -/
def afterFraction? : List Char → Option (List Char)
  | '.' :: rest => afterDigits? rest
  | cs => some cs

def isExponentMark (c : Char) : Bool := c = 'e' || c = 'E'

/-- What follows an exponent, if there is one. -/
def afterExponent? : List Char → Option (List Char)
  | c :: rest => if isExponentMark c then afterDigits? (takeSign rest).2 else some (c :: rest)
  | [] => some []

/-- The value of a number with a fraction or an exponent, without underscores; malformed beyond all
doubles. -/
def floatValue (word : List Char) : Value :=
  let magnitude := (takeSign word).2
  let mantissa := magnitude.takeWhile (! isExponentMark ·)
  let (negative, scaleDigits) := takeSign ((magnitude.dropWhile (! isExponentMark ·)).drop 1)
  let places := (mantissa.dropWhile (· != '.')).drop 1
  let shift : Int := valueInBase 10 scaleDigits
  let scale := if negative then -shift else shift
  if Double.isInRange (valueInBase 10 (mantissa.filter (· != '.'))) (scale - places.length) then
    .real (String.ofList word)
  else .malformed

/-- A number with a fraction or an exponent and its sign, `magnitude` being the number without
it. -/
def floatNumber? (word magnitude : List Char) : Option Value := do
  guard (hasPlainMantissa magnitude)
  let afterMantissa ← afterDigits? magnitude
  let rest ← afterExponent? (← afterFraction? afterMantissa)
  guard rest.isEmpty
  guard (underscoresFit Char.isDigit word)
  return floatValue (withoutUnderscores word)

end LoaderGen.Toml

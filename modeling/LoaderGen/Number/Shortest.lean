import LoaderGen.Number.Double

/-!
# Shortest decimal text of a double

A double is written with the fewest digits that read back to it. For one digit, two digits and so
on, the two neighbours of the value on that decimal grid are tested; the first grid with a neighbour
that rounds to the double wins, the nearer of two neighbours is taken, and a tie goes to the even
one.
-/

namespace LoaderGen.Double

/-- A number `digits * 10 ^ exponent`. -/
structure Scientific where
  digits : Nat
  exponent : Int
  deriving DecidableEq, Repr

/-- How many digits stand before the decimal point of so many units; zero or less for a number below
one tenth, as many as there are zeros after the point. -/
def pointPosition (units : Nat) : Int :=
  (Nat.toDigits 10 (units * Nat.pow 10 400 / unitsPerOne)).length - 400

/-- The decimal `digits * num / den`, counted in halves of a unit, rounds to the given double. -/
def readsBack (units digits num den : Nat) : Bool :=
  let decimal := 2 * digits * den
  let low := (2 * units - spacing (units - 1)) * num
  let high := (2 * units + spacing units) * num
  if (units / spacing units) % 2 = 0 then low ≤ decimal && decimal ≤ high
  else low < decimal && decimal < high

/-- The better neighbour of the value on the grid of multiples of `10 ^ exponent`, if one of the two
reads back. -/
def onGrid? (units : Nat) (exponent : Int) : Option Scientific :=
  let num := Nat.pow 10 (-exponent).toNat
  let den := unitsPerOne * Nat.pow 10 exponent.toNat
  let below := units * num / den
  let nearest := divToEven (units * num) den
  if readsBack units nearest num den then some ⟨nearest, exponent⟩
  else
    let other := 2 * below + 1 - nearest
    if readsBack units other num den then some ⟨other, exponent⟩ else none

/-- The shortest decimal that reads back to a positive number of units. -/
def shortest (units : Nat) : Scientific :=
  let point := pointPosition units
  let grids := (List.range 17).map fun more : Nat => point - 1 - more
  (grids.findSome? (onGrid? units)).getD ⟨units, 0⟩

/-- The digits of a number, from the left, without the zeros at their end. -/
def significant (digits : Nat) : List Char :=
  ((Nat.toDigits 10 digits).reverse.dropWhile (· == '0')).reverse

/-- Digits with a decimal point after the first `point` of them. Numbers from `1e-5` to below `1e16`
have all their places written; others have one digit before the point and an exponent. -/
def layOut (ds : List Char) (point : Int) : List Char :=
  if ds.length ≤ point ∧ point ≤ 16 then
    ds ++ List.replicate (point.toNat - ds.length) '0' ++ ['.', '0']
  else if 0 < point ∧ point ≤ 16 then
    ds.take point.toNat ++ '.' :: ds.drop point.toNat
  else if -5 < point ∧ point ≤ 0 then
    '0' :: '.' :: List.replicate (-point).toNat '0' ++ ds
  else
    let fraction := if ds.length ≤ 1 then [] else '.' :: ds.drop 1
    ds.take 1 ++ fraction ++ 'e' :: (toString (point - 1)).toList

/-- The number as text, always with a decimal point or an exponent. -/
def toText : Double → String
  | finite 0 => "0.0"
  | finite units =>
    let decimal := shortest units
    let all := (Nat.toDigits 10 decimal.digits).length
    String.ofList (layOut (significant decimal.digits) (all + decimal.exponent))
  | infinite => "inf"

end LoaderGen.Double

/-!
# Non-negative doubles

Arithmetic of the 64-bit binary format on quantities that are never negative. Every finite double is
a whole number of the smallest positive one, so a double is kept as that number, and each operation
is the exact result rounded to the nearest double, a tie going to the one with an even significand.
-/

namespace LoaderGen

/-- A non-negative double. -/
inductive Double where
  /-- So many times the smallest positive double. -/
  | finite (units : Nat)
  /-- The result of an operation beyond the largest double. -/
  | infinite
  deriving DecidableEq, Repr

namespace Double

/-- How often the smallest positive double goes into one. -/
def unitsPerOne : Nat := Nat.pow 2 1074

/-- The least number of units beyond the largest double. -/
def overflow : Nat := Nat.pow 2 2098

/-- The distance, in units, from one double to the next above it. -/
def spacing (units : Nat) : Nat :=
  if units < Nat.pow 2 53 then 1 else Nat.pow 2 (units.log2 - 52)

/-- The whole number nearest to a quotient, a tie going to the even one. -/
def divToEven (num den : Nat) : Nat :=
  let quotient := num / den
  let twice := 2 * (num % den)
  if twice < den then quotient
  else if den < twice then quotient + 1
  else quotient + quotient % 2

/-- The double nearest to `num / den` units. -/
def round (num den : Nat) : Double :=
  let step := spacing (num / den)
  let units := divToEven num (den * step) * step
  if units < overflow then finite units else infinite

/-- The double nearest to a whole number. -/
def ofNat (n : Nat) : Double := round (n * unitsPerOne) 1

/-- The double nearest to `digits / 10 ^ places`. -/
def ofDecimal (digits places : Nat) : Double :=
  round (digits * unitsPerOne) (Nat.pow 10 places)

/-- The least number that rounds to no finite double. -/
def rangeEnd : Nat := Nat.pow 2 1024 - Nat.pow 2 970

/-- The number `m * 10 ^ e` rounds to a finite double. Its length decides, except near the end of
the range. -/
def isInRange (m : Nat) (e : Int) : Bool :=
  let magnitude := (Nat.toDigits 10 m).length + e
  if m = 0 ∨ magnitude ≤ 308 then true
  else if 309 < magnitude then false
  else if e ≤ 0 then m / Nat.pow 10 (-e).toNat < rangeEnd
  else m * Nat.pow 10 e.toNat < rangeEnd

/-- The rounded sum. -/
def add : Double → Double → Double
  | finite a, finite b => round (a + b) 1
  | _, _ => infinite

/-- The rounded product, of factors that are not zero when the other is infinite. -/
def mul : Double → Double → Double
  | finite a, finite b => round (a * b) unitsPerOne
  | _, _ => infinite

/-- The rounded quotient by a whole number. -/
def divNat : Double → Nat → Double
  | finite a, n => round a n
  | infinite, _ => infinite

/-- The nearest whole number, a half going up; none when there is no bound to it. -/
def nearestNat? : Double → Option Nat
  | finite units => some ((2 * units + unitsPerOne) / (2 * unitsPerOne))
  | infinite => none

end Double

end LoaderGen

import LoaderGen.Value.Toml.Number

/-!
# Moments of TOML

A day, a time of the day, or both, with or without a distance to universal time. A moment is read
into its parts and kept as a record of its text, in which each part is written in one way only.
-/

namespace LoaderGen.Toml

/-- A day of the calendar. -/
structure Date where
  year : Nat
  month : Nat
  day : Nat
  deriving DecidableEq, Repr

/-- A time of the day. -/
structure Time where
  hour : Nat
  minute : Nat
  /-- The seconds, if they are given; 60 is a leap second. -/
  second : Option Nat
  /-- The fraction of the second, if it is given. -/
  nanos : Option Nat
  deriving DecidableEq, Repr

/-- The distance of a time to universal time. -/
inductive Offset where
  | none
  | universal
  /-- So many minutes ahead. -/
  | ahead (minutes : Int)
  deriving DecidableEq, Repr

inductive Moment where
  | day (date : Date)
  | clock (time : Time)
  | dayAndClock (date : Date) (time : Time) (offset : Offset)
  deriving DecidableEq, Repr

/-! ### Writing -/

/-- A number with zeros before it up to the given length. -/
def padded (length n : Nat) : List Char :=
  let ds := Nat.toDigits 10 n
  List.replicate (length - ds.length) '0' ++ ds

def Date.toText (date : Date) : List Char :=
  padded 4 date.year ++ '-' :: padded 2 date.month ++ '-' :: padded 2 date.day

/-- The places of a fraction without the zeros at their end, of which one stays if there is nothing
else. -/
def fractionText (nanos : Nat) : List Char :=
  match ((padded 9 nanos).reverse.dropWhile (· == '0')).reverse with
  | [] => ['0']
  | ds => ds

def Time.toText (time : Time) : List Char :=
  padded 2 time.hour ++ ':' :: padded 2 time.minute ++
    time.second.elim [] (fun second => ':' :: padded 2 second) ++
    time.nanos.elim [] (fun nanos => '.' :: fractionText nanos)

def Offset.toText : Offset → List Char
  | none => []
  | universal => ['Z']
  | ahead minutes =>
    (if minutes < 0 then '-' else '+') ::
      padded 2 (minutes.natAbs / 60) ++ ':' :: padded 2 (minutes.natAbs % 60)

def Moment.toText : Moment → List Char
  | day date => date.toText
  | clock time => time.toText
  | dayAndClock date time offset => date.toText ++ 'T' :: time.toText ++ offset.toText

/-- The key under which the text of a moment is kept. -/
def momentKey : String := "$__toml_private_datetime"

def Moment.toValue (moment : Moment) : Value :=
  .record [(momentKey, .text (String.ofList moment.toText))]

/-! ### Reading -/

/-- A number of two digits within a range. -/
def pair? (low high : Nat) (a b : Char) : Option Nat := do
  guard (a.isDigit && b.isDigit)
  let n := valueInBase 10 [a, b]
  guard (low ≤ n ∧ n ≤ high)
  return n

def daysIn (year month : Nat) : Nat :=
  if month = 2 then
    if year % 4 = 0 ∧ (year % 100 ≠ 0 ∨ year % 400 = 0) then 29 else 28
  else if month = 4 ∨ month = 6 ∨ month = 9 ∨ month = 11 then 30
  else 31

/-- A day, and what follows. -/
def takeDate? : List Char → Option (Date × List Char)
  | y₁ :: y₂ :: y₃ :: y₄ :: '-' :: m₁ :: m₂ :: '-' :: d₁ :: d₂ :: rest => do
    guard ([y₁, y₂, y₃, y₄].all Char.isDigit)
    let year := valueInBase 10 [y₁, y₂, y₃, y₄]
    let month ← pair? 1 12 m₁ m₂
    let day ← pair? 1 (daysIn year month) d₁ d₂
    return (⟨year, month, day⟩, rest)
  | _ => none

/-- The nanoseconds that the places of a fraction give; those after the ninth do not count. -/
def nanosOf (places : List Char) : Nat :=
  let counted := places.take 9
  valueInBase 10 (counted ++ List.replicate (9 - counted.length) '0')

/-- A fraction of a second, if there is one, and what follows. -/
def takeFraction? : List Char → Option (Option Nat × List Char)
  | '.' :: rest =>
    match rest.takeWhile Char.isDigit with
    | [] => none
    | places => some (some (nanosOf places), rest.dropWhile Char.isDigit)
  | cs => some (none, cs)

/-- A time, with or without seconds and their fraction, and what follows. -/
def takeTime? : List Char → Option (Time × List Char)
  | h₁ :: h₂ :: ':' :: m₁ :: m₂ :: rest => do
    let hour ← pair? 0 23 h₁ h₂
    let minute ← pair? 0 59 m₁ m₂
    match rest with
    | ':' :: s₁ :: s₂ :: more =>
      let second ← pair? 0 60 s₁ s₂
      let (nanos, after) ← takeFraction? more
      return (⟨hour, minute, some second, nanos⟩, after)
    | _ => return (⟨hour, minute, none, none⟩, rest)
  | _ => none

/-- A distance to universal time at the end of a moment, if there is one. -/
def offset? : List Char → Option Offset
  | [] => some .none
  | ['Z'] => some .universal
  | ['z'] => some .universal
  | [sign, h₁, h₂, ':', m₁, m₂] => do
    guard (sign = '+' ∨ sign = '-')
    let minutes : Int := 60 * (← pair? 0 23 h₁ h₂) + (← pair? 0 59 m₁ m₂)
    return .ahead (if sign = '-' then -minutes else minutes)
  | _ => none

def moment? (cs : List Char) : Option Moment := do
  match takeDate? cs with
  | some (date, []) => return .day date
  | some (date, separator :: rest) =>
    guard (separator = 'T' ∨ separator = 't' ∨ separator = ' ')
    let (time, after) ← takeTime? rest
    return .dayAndClock date time (← offset? after)
  | none =>
    let (time, after) ← takeTime? cs
    guard after.isEmpty
    return .clock time

end LoaderGen.Toml

import LoaderGen.Number.Double

/-!
# Durations

A duration is written as a sequence of numbers with units, such as `1h30m` or `1.5s`; a bare `0` is
a duration too. Its length in nanoseconds is summed in doubles in the order written, rounded to the
nearest whole number, and held below 2 to the 64th.
-/

namespace LoaderGen

/-- A length of time, in whole nanoseconds. -/
structure Duration where
  nanos : Nat
  nanos_lt : nanos < UInt64.size
  deriving DecidableEq, Repr

namespace Duration

/-- The longest duration not above so many nanoseconds. -/
def atMost (nanos : Nat) : Duration :=
  ⟨min nanos (UInt64.size - 1), by simp only [UInt64.size]; omega⟩

def zero : Duration := ⟨0, by decide⟩

/-- The units in which a duration is written. -/
inductive TimeUnit where
  | nanosecond | microsecond | millisecond | second | minute | hour | day
  deriving DecidableEq, Repr

namespace TimeUnit

def nanos : TimeUnit → Nat
  | nanosecond => 1
  | microsecond => 1000
  | millisecond => 1000000
  | second => 1000000000
  | minute => 60000000000
  | hour => 3600000000000
  | day => 86400000000000

/-- Every way to write a unit; the two micro signs are different characters. -/
def spellings : List (List Char × TimeUnit) := [
  (['n', 's'], nanosecond), (['u', 's'], microsecond), (['\u00b5', 's'], microsecond),
  (['\u03bc', 's'], microsecond), (['m', 's'], millisecond), (['s'], second), (['m'], minute),
  (['h'], hour), (['d'], day)]

def ofName? (name : List Char) : Option TimeUnit := spellings.lookup name

end TimeUnit

/-- Why a text is no duration. -/
inductive Fault where
  | empty
  | expectedNumber
  | malformedNumber (number : String)
  | missingUnit
  | unknownUnit (name : String)
  deriving DecidableEq, Repr

/-- The explanation of a fault in the given text. -/
def Fault.message (input : String) : Fault → String
  | empty => "empty duration"
  | expectedNumber => s!"expected a number in '{input}'"
  | malformedNumber number => s!"invalid number '{number}' in '{input}'"
  | missingUnit => s!"missing unit in '{input}'"
  | unknownUnit name => s!"unknown unit '{name}' in '{input}'"

/-- One number with its unit: `digits / 10 ^ places` units. -/
structure Component where
  digits : Nat
  places : Nat
  unit : TimeUnit
  deriving DecidableEq, Repr

/-- The component's length in nanoseconds. -/
def Component.nanos (component : Component) : Double :=
  (Double.ofDecimal component.digits component.places).mul (.ofNat component.unit.nanos)

/-- A character of a number. -/
def isNumeral (c : Char) : Bool := c.isDigit || c == '.'

/-- The value of a run of digits. -/
def digitsValue (ds : List Char) : Nat :=
  ds.foldl (fun value d => 10 * value + (d.toNat - '0'.toNat)) 0

/-- A run of digits and points read as a number: all its digits, and how many of them are decimal
places. -/
def readNumber (number : List Char) : Except Fault (Nat × Nat) :=
  let digits := number.filter Char.isDigit
  if number = [] ∨ number = ['.'] then .error .expectedNumber
  else if 1 < number.count '.' then .error (.malformedNumber (String.ofList number))
  else .ok (digitsValue digits, (number.dropWhile (· != '.')).length - 1)

/-- The unit with the given name. -/
def readUnit (name : List Char) : Except Fault TimeUnit :=
  match TimeUnit.ofName? name with
  | some unit => .ok unit
  | none => .error (if name = [] then .missingUnit else .unknownUnit (String.ofList name))

/-- The components of a text, from the left; the first fault ends the reading. -/
def components (cs : List Char) : Except Fault (List Component) :=
  match cs with
  | [] => .ok []
  | c :: rest =>
    if isNumeral c then do
      let (digits, places) ← readNumber (c :: rest.takeWhile isNumeral)
      let afterNumber := rest.dropWhile isNumeral
      let unit ← readUnit (afterNumber.takeWhile (! isNumeral ·))
      let others ← components (afterNumber.dropWhile (! isNumeral ·))
      return ⟨digits, places, unit⟩ :: others
    else .error .expectedNumber
termination_by cs.length
decreasing_by
  have h₁ := (List.dropWhile_suffix (l := rest) isNumeral).length_le
  have h₂ := (List.dropWhile_suffix (l := rest.dropWhile isNumeral) (! isNumeral ·)).length_le
  simp only [List.length_cons]
  omega

/-- The nanoseconds of a sequence of components, added from the left. -/
def sum (parts : List Component) : Double :=
  (parts.map Component.nanos).foldl Double.add (.finite 0)

/-- The duration of a sequence of components. -/
def total (parts : List Component) : Duration :=
  match (sum parts).nearestNat? with
  | some nanos => atMost nanos
  | none => atMost UInt64.size

/-- The duration that a text denotes. -/
def parse (input : String) : Except Fault Duration :=
  if input = "" then .error .empty
  else if input = "0" then .ok zero
  else (components input.toList).map total

/-- The length in seconds: whole seconds and the fraction are rounded apart, then added. -/
def seconds (duration : Duration) : Double :=
  (Double.ofNat (duration.nanos / 1000000000)).add
    ((Double.ofNat (duration.nanos % 1000000000)).divNat 1000000000)

end Duration

end LoaderGen

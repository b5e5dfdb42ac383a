import LoaderGen.Number.Double
import LoaderGen.Text.Utf8
import LoaderGen.Value.Basic

/-!
# Reading JSON

The grammar of JSON over bytes. A text with an escape that is half a surrogate pair, or with bytes
that are no UTF-8, is well formed but unusable; so are an object with such a key, a number beyond
all doubles, and a list or object nested deeper than the limit.
-/

namespace LoaderGen.Json

/-- How many lists and objects may stand inside one another in a part that is used. -/
def maxDepth : Nat := 127

/-- A part of a text between quotes. -/
inductive Piece where
  | byte (b : UInt8)
  /-- A UTF-16 unit, from an escape of four hexadecimal digits. -/
  | unit (u : Nat)

def hexDigit? (b : UInt8) : Option Nat :=
  if 0x30 ≤ b ∧ b ≤ 0x39 then some (b.toNat - 0x30)
  else if 0x41 ≤ b ∧ b ≤ 0x46 then some (b.toNat - 0x41 + 10)
  else if 0x61 ≤ b ∧ b ≤ 0x66 then some (b.toNat - 0x61 + 10)
  else none

def hexUnit? (a b c d : UInt8) : Option Nat := do
  return 4096 * (← hexDigit? a) + 256 * (← hexDigit? b) + 16 * (← hexDigit? c) + (← hexDigit? d)

/-- What the one-letter escapes stand for. -/
def shortEscape? (b : UInt8) : Option UInt8 :=
  [(0x22, 0x22), (0x5C, 0x5C), (0x2F, 0x2F), (0x62, 0x08), (0x66, 0x0C), (0x6E, 0x0A), (0x72, 0x0D),
    (0x74, 0x09)].lookup b

/-- The pieces of a text up to its closing quote, and what follows. -/
def pieces? : List UInt8 → Option (List Piece × List UInt8)
  | [] => none
  | 0x22 :: rest => some ([], rest)
  | 0x5C :: 0x75 :: a :: b :: c :: d :: rest => do
    let u ← hexUnit? a b c d
    let (more, after) ← pieces? rest
    return (.unit u :: more, after)
  | 0x5C :: e :: rest => do
    let b ← shortEscape? e
    let (more, after) ← pieces? rest
    return (.byte b :: more, after)
  | b :: rest => do
    guard (0x20 ≤ b ∧ b ≠ 0x5C)
    let (more, after) ← pieces? rest
    return (.byte b :: more, after)

/-- The bytes that pieces stand for; a high surrogate needs a low one after it. -/
def assemble? : List Piece → Option (List UInt8)
  | [] => some []
  | .byte b :: rest => (assemble? rest).map (b :: ·)
  | .unit u :: .unit v :: rest =>
    if 0xD800 ≤ u ∧ u < 0xDC00 then
      if 0xDC00 ≤ v ∧ v < 0xE000 then
        (assemble? rest).map
          (Text.utf8Bytes (Char.ofNat (0x10000 + 0x400 * (u - 0xD800) + (v - 0xDC00))) ++ ·)
      else none
    else if 0xDC00 ≤ u ∧ u < 0xE000 then none
    else (assemble? (.unit v :: rest)).map (Text.utf8Bytes (Char.ofNat u) ++ ·)
  | .unit u :: rest =>
    if 0xD800 ≤ u ∧ u < 0xE000 then none
    else (assemble? rest).map (Text.utf8Bytes (Char.ofNat u) ++ ·)

/-- A text after its opening quote, and what follows; no text when it is unusable. -/
def text? (bytes : List UInt8) : Option (Option String × List UInt8) := do
  let (pieces, after) ← pieces? bytes
  return (assemble? pieces >>= Text.ofBytes?, after)

def isDigit (b : UInt8) : Bool := 0x30 ≤ b && b ≤ 0x39

def isBlank (b : UInt8) : Bool := b == 0x20 || b == 0x09 || b == 0x0A || b == 0x0D

def skipBlank (bytes : List UInt8) : List UInt8 := bytes.dropWhile isBlank

/-- At least one digit, and what follows. -/
def digits? (bytes : List UInt8) : Option (List UInt8 × List UInt8) :=
  match bytes.takeWhile isDigit with
  | [] => none
  | ds => some (ds, bytes.dropWhile isDigit)

/-- The part of a number before its point: a zero, or digits that start with none. -/
def whole? : List UInt8 → Option (List UInt8 × List UInt8)
  | 0x30 :: rest => some ([0x30], rest)
  | bytes => digits? bytes

/-- A point and digits, if there is a point. -/
def fraction? : List UInt8 → Option (List UInt8 × List UInt8)
  | 0x2E :: rest => digits? rest
  | bytes => some ([], bytes)

/-- An exponent, if there is one: its sign and digits. -/
def exponent? : List UInt8 → Option (Option (Bool × List UInt8) × List UInt8)
  | e :: rest =>
    if e = 0x65 ∨ e = 0x45 then
      match rest with
      | 0x2B :: more => (digits? more).map fun (ds, after) => (some (false, ds), after)
      | 0x2D :: more => (digits? more).map fun (ds, after) => (some (true, ds), after)
      | more => (digits? more).map fun (ds, after) => (some (false, ds), after)
    else some (none, e :: rest)
  | [] => some (none, [])

def digitsValue (ds : List UInt8) : Nat := ds.foldl (fun n d => 10 * n + (d.toNat - 0x30)) 0

/-- Counts digits into `n` as long as it stays below 2 to the 64th, and gives how many are left. -/
def accumulate (n : Nat) : List UInt8 → Nat × Nat
  | [] => (n, 0)
  | d :: ds =>
    let next := 10 * n + (d.toNat - 0x30)
    if next < UInt64.size then accumulate next ds else (n, ds.length + 1)

/-- The number is not beyond all doubles, as far as its first digits tell: as many as fit into 64
bits are rounded to a double, and that is multiplied by a power of ten and rounded again. -/
def isInRange (ds places : List UInt8) (shift : Int) : Bool :=
  let (whole, dropped) := accumulate 0 ds
  let (significand, droppedPlaces) := accumulate whole places
  let exponent := shift + dropped + droppedPlaces - places.length
  significand == 0 || exponent ≤ 0 ||
    (exponent ≤ 308 &&
      (Double.ofNat significand).mul (.ofNat (Nat.pow 10 exponent.toNat)) != .infinite)

/-- A number, and what follows it. -/
def number? (bytes : List UInt8) : Option (Value × List UInt8) := do
  let negative := bytes.head? == some 0x2D
  let (ds, afterWhole) ← whole? (if negative then bytes.drop 1 else bytes)
  let (places, afterFraction) ← fraction? afterWhole
  let (scale, after) ← exponent? afterFraction
  let literal := String.ofList <|
    (bytes.take (bytes.length - after.length)).map fun b => Char.ofNat b.toNat
  let n : Int := if negative then -digitsValue ds else digitsValue ds
  if places.isEmpty && scale.isNone && !(negative && n == 0) &&
      -9223372036854775808 ≤ n && n ≤ 18446744073709551615 then
    return (.int n, after)
  else
    let shift : Int := match scale with
      | some (true, es) => -digitsValue es
      | some (false, es) => digitsValue es
      | none => 0
    return (if isInRange ds places shift then .real literal else .unusable, after)

mutual

/-- One value, and what follows it; `room` lists and objects may still be opened in it. -/
def value? (fuel room : Nat) (bytes : List UInt8) : Option (Value × List UInt8) :=
  match fuel with
  | 0 => none
  | fuel + 1 =>
    match bytes with
    | 0x6E :: 0x75 :: 0x6C :: 0x6C :: rest => some (.null, rest)
    | 0x74 :: 0x72 :: 0x75 :: 0x65 :: rest => some (.bool true, rest)
    | 0x66 :: 0x61 :: 0x6C :: 0x73 :: 0x65 :: rest => some (.bool false, rest)
    | 0x22 :: rest => do
      let (s, after) ← text? rest
      return (s.elim .unusable .text, after)
    | 0x5B :: rest =>
      match skipBlank rest with
      | 0x5D :: after => some (if room = 0 then .unusable else .list [], after)
      | more => do
        let (items, after) ← items? fuel (room - 1) more
        return (if room = 0 then .unusable else .list items, after)
    | 0x7B :: rest =>
      match skipBlank rest with
      | 0x7D :: after => some (if room = 0 then .unusable else .record [], after)
      | more => do
        let (fields, after) ← members? fuel (room - 1) more
        match room, fields with
        | _ + 1, some fields => return (.record fields, after)
        | _, _ => return (.unusable, after)
    | _ => number? bytes

/-- The items of a list up to its bracket, the next one starting here. -/
def items? (fuel room : Nat) (bytes : List UInt8) : Option (List Value × List UInt8) :=
  match fuel with
  | 0 => none
  | fuel + 1 => do
    let (item, rest) ← value? fuel room bytes
    match skipBlank rest with
    | 0x5D :: after => return ([item], after)
    | 0x2C :: more =>
      let (items, after) ← items? fuel room (skipBlank more)
      return (item :: items, after)
    | _ => none

/-- The members of an object up to its brace, the next key starting here; none of them when a key is
unusable. -/
def members? (fuel room : Nat) (bytes : List UInt8) :
    Option (Option (List (String × Value)) × List UInt8) :=
  match fuel with
  | 0 => none
  | fuel + 1 =>
    match bytes with
    | 0x22 :: rest => do
      let (key, afterKey) ← text? rest
      match skipBlank afterKey with
      | 0x3A :: more =>
        let (v, rest) ← value? fuel room (skipBlank more)
        let member := key.map (·, v)
        match skipBlank rest with
        | 0x7D :: after => return (member.map ([·]), after)
        | 0x2C :: more =>
          let (members, after) ← members? fuel room (skipBlank more)
          return ((· :: ·) <$> member <*> members, after)
        | _ => none
      | _ => none
    | _ => none

end

/-- The value that a whole document holds. -/
def read? (bytes : List UInt8) : Option Value := do
  let (v, rest) ← value? (2 * bytes.length + 2) maxDepth (skipBlank bytes)
  guard (skipBlank rest).isEmpty
  return v

end LoaderGen.Json

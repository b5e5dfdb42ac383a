import LoaderGen.Text.Utf8

/-!
# Globs

A glob is a sequence of tokens, and matches a text when the bytes of the whole text can be cut into
pieces that match the tokens in turn. Matching walks over the tokens and keeps, for each place
between two bytes, whether the tokens so far can end there.
-/

namespace LoaderGen.Glob

/-- One part of a glob. -/
inductive Token where
  | literal (c : Char)
  /-- Any one byte. -/
  | anyByte
  /-- Any bytes, or none. -/
  | anyRun
  /-- Nothing, or anything that ends in a slash. -/
  | leading
  /-- A slash and anything after it. -/
  | trailing
  /-- A slash, or anything between two slashes with them. -/
  | between
  /-- One byte inside the ranges, or one outside of them. -/
  | oneOf (negated : Bool) (ranges : List (Char × Char))
  /-- One of several sequences; with none to choose from, nothing. -/
  | alternatives (branches : List (List Token))
  deriving Repr, Inhabited

/-- For each place between two bytes, from the one before the first to the one after the last,
whether it can be reached. -/
abbrev Reach := List Bool

namespace Reach

/-- Only the place before the first byte. -/
def start (bytes : List UInt8) : Reach := true :: bytes.map fun _ => false

/-- One accepted byte further. -/
def step (accepts : UInt8 → Bool) (bytes : List UInt8) (reach : Reach) : Reach :=
  false :: List.zipWith (fun reached b => reached && accepts b) reach bytes

/-- Any number of bytes further, given whether an earlier place is reached. -/
def onward (earlier : Bool) : Reach → Reach
  | [] => []
  | reached :: rest => (earlier || reached) :: onward (earlier || reached) rest

/-- The places reached in either way. -/
def either (a b : Reach) : Reach := List.zipWith (· || ·) a b

/-- No place. -/
def nowhere (reach : Reach) : Reach := reach.map fun _ => false

/-- The place after the last byte is reached. -/
def atEnd (reach : Reach) : Bool := reach.getLast? == some true

end Reach

/-- The byte of a slash. -/
def slash : UInt8 := 0x2F

/-- The byte lies in the range. Characters of several bytes count with each of them, and a range
runs from the last byte of its first character to the first byte of its last one. -/
def rangeHolds (range : Char × Char) (b : UInt8) : Bool :=
  let low := Text.utf8Bytes range.1
  let high := Text.utf8Bytes range.2
  low.contains b || high.contains b ||
    match low.getLast?, high.head? with
    | some first, some last => range.1 != range.2 && first ≤ b && b ≤ last
    | _, _ => false

mutual

/-- Where a token can end, given where it can start. -/
def Token.advance (bytes : List UInt8) (reach : Reach) : Token → Reach
  | .literal c => (Text.utf8Bytes c).foldl (fun reach b => Reach.step (· == b) bytes reach) reach
  | .anyByte => Reach.step (fun _ => true) bytes reach
  | .anyRun => Reach.onward false reach
  | .leading => Reach.either reach (Reach.step (· == slash) bytes (Reach.onward false reach))
  | .trailing => Reach.onward false (Reach.step (· == slash) bytes reach)
  | .between =>
    let afterSlash := Reach.step (· == slash) bytes reach
    Reach.either afterSlash (Reach.step (· == slash) bytes (Reach.onward false afterSlash))
  | .oneOf negated ranges =>
    Reach.step (fun b => (ranges.any (rangeHolds · b)) != negated) bytes reach
  | .alternatives [] => reach
  | .alternatives (branch :: branches) =>
    Reach.either (advanceAll bytes reach branch) (advanceAny bytes reach branches)

/-- Where a sequence of tokens can end. -/
def advanceAll (bytes : List UInt8) (reach : Reach) : List Token → Reach
  | [] => reach
  | token :: tokens => advanceAll bytes (token.advance bytes reach) tokens

/-- Where one of several sequences can end. -/
def advanceAny (bytes : List UInt8) (reach : Reach) : List (List Token) → Reach
  | [] => Reach.nowhere reach
  | branch :: branches =>
    Reach.either (advanceAll bytes reach branch) (advanceAny bytes reach branches)

end

/-- The tokens match the whole text. -/
def isMatch (tokens : List Token) (text : String) : Bool :=
  match tokens with
  | [.leading] => true
  | _ =>
    let bytes := Text.bytesOf text
    (advanceAll bytes (Reach.start bytes) tokens).atEnd

end LoaderGen.Glob

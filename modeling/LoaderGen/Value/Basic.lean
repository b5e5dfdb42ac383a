/-!
# Structured values

The tree that an option document or a request is read into, and the readers for its parts. A record
type is read from a record by the names of its fields, or from a list by their positions; keys that
are no field are passed over. The two formats of documents differ in what else they let pass.
-/

namespace LoaderGen

/-- A tree of data. -/
inductive Value where
  | null
  | bool (b : Bool)
  /-- A whole number of at most 64 bits, written without point or exponent. -/
  | int (n : Int)
  /-- Any other number, as written. -/
  | real (literal : String)
  | text (s : String)
  | list (items : List Value)
  | record (fields : List (String × Value))
  /-- A well-formed part that can be passed over but not used: text that is no Unicode, a number
  beyond all doubles, or nesting beyond the limit. -/
  | unusable
  /-- A part with no value at all, such as a number beyond any width. It cannot be passed over
  either, and does no harm only where nothing looks at it. -/
  | malformed
  deriving Repr, Inhabited

/-- The formats of documents. -/
inductive Format where
  | json
  | toml
  deriving DecidableEq, Repr

namespace Format

/-- A list may have more items than its type has fields; nothing looks at them. -/
def allowsSurplus : Format → Bool
  | json => false
  | toml => true

/-- The value stands for no content: null, or where that cannot be written an empty list or
table. -/
def isNoContent : Format → Value → Bool
  | json, .null => true
  | toml, .list [] => true
  | toml, .record [] => true
  | _, _ => false

end Format

namespace Value

mutual

/-- No part of the value is unusable or malformed. -/
def isUsable : Value → Bool
  | unusable => false
  | malformed => false
  | list items => areUsable items
  | record fields => membersUsable fields
  | _ => true

def areUsable : List Value → Bool
  | [] => true
  | v :: rest => isUsable v && areUsable rest

def membersUsable : List (String × Value) → Bool
  | [] => true
  | (_, v) :: rest => isUsable v && membersUsable rest

end

mutual

/-- No part of the value is malformed. -/
def isPassable : Value → Bool
  | malformed => false
  | list items => arePassable items
  | record fields => membersPassable fields
  | _ => true

def arePassable : List Value → Bool
  | [] => true
  | v :: rest => isPassable v && arePassable rest

def membersPassable : List (String × Value) → Bool
  | [] => true
  | (_, v) :: rest => isPassable v && membersPassable rest

end

def text? : Value → Option String
  | text s => some s
  | _ => none

def bool? : Value → Option Bool
  | bool b => some b
  | _ => none

/-- A whole number from `low` to `high`. -/
def intWithin? (low high : Int) : Value → Option Int
  | int n => if low ≤ n ∧ n ≤ high then some n else none
  | _ => none

def byte? (v : Value) : Option UInt8 := (intWithin? 0 255 v).map (UInt8.ofNat ·.toNat)

def word32? (v : Value) : Option UInt32 := (intWithin? 0 4294967295 v).map (UInt32.ofNat ·.toNat)

def int32? (v : Value) : Option Int32 := (intWithin? (-2147483648) 2147483647 v).map Int32.ofInt

def int64? (v : Value) : Option Int64 :=
  (intWithin? (-9223372036854775808) 9223372036854775807 v).map Int64.ofInt

/-- A list, each item read alike. -/
def listOf? {α : Type} (item : Value → Option α) : Value → Option (List α)
  | list items => items.mapM item
  | _ => none

/-- A value that can be absent. -/
def optional? {α : Type} (present : Value → Option α) : Value → Option (Option α)
  | null => some none
  | v => (present v).map some

/-- The fields of a record type that a value gives. -/
abbrev Fields := List (String × Value)

/-- The fields among the members of a record, none of them twice; all else is passed over. -/
def named? (names : List String) (members : List (String × Value)) : Option Fields :=
  let (known, others) := members.partition fun member => names.contains member.1
  if (known.map Prod.fst).Nodup ∧ membersPassable others then some known else none

/-- The fields that a value gives, by name or by position. -/
def fields? (format : Format) (names : List String) : Value → Option Fields
  | record members => named? names members
  | list items =>
    if items.length ≤ names.length || format.allowsSurplus then some (names.zip items) else none
  | _ => none

/-- A field that has to be given. -/
def Fields.required {α : Type} (fields : Fields) (name : String) (read : Value → Option α) :
    Option α :=
  fields.lookup name >>= read

/-- A field with a value for when it is not given. -/
def Fields.orElse {α : Type} (fields : Fields) (name : String) (absent : α)
    (read : Value → Option α) : Option α :=
  match fields.lookup name with
  | none => some absent
  | some v => read v

/-- A field written only when its text is not empty. -/
def unlessEmpty (name s : String) : Fields := if s.isEmpty then [] else [(name, text s)]

/-- A field written only when there is a value. -/
def whenSome {α : Type} (name : String) (write : α → Value) : Option α → Fields
  | none => []
  | some a => [(name, write a)]

/-- A field written only when the list has items. -/
def unlessNil {α : Type} (name : String) (write : α → Value) (items : List α) : Fields :=
  if items.isEmpty then [] else [(name, list (items.map write))]

end Value

end LoaderGen

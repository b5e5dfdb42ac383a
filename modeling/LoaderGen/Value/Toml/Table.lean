import LoaderGen.Value.Basic

/-!
# Tables of a TOML document

A document fills its tables bit by bit. What may still be added to a table depends on how it came
about: a header defines a table once, dotted keys define one within their section, and a table that
was only passed on the way to another can still be defined, by either.
-/

namespace LoaderGen.Toml

/-- How a table came about. -/
inductive Origin where
  /-- By its own header. -/
  | header
  /-- On the way to the table of another header. -/
  | passing
  /-- By dotted keys. -/
  | dotted
  deriving DecidableEq, Repr

/-- What a key stands for while the document is read. -/
inductive Node where
  /-- A finished value: inline tables and lists are among them. -/
  | leaf (v : Value)
  | table (origin : Origin) (entries : List (String × Node))
  /-- The tables of one repeated header, last first. -/
  | tables (last : List (String × Node)) (earlier : List (List (String × Node)))
  deriving Inhabited

/-- The keys of a table, in order of appearance. -/
abbrev Table := List (String × Node)

namespace Table

/-- The table with the node of a key replaced, or added at the end. -/
def set (key : String) (node : Node) : Table → Table
  | [] => [(key, node)]
  | (k, n) :: rest => if k = key then (key, node) :: rest else (k, n) :: set key node rest

/-- Gives a value to a key, which is dotted when the path has several names. Tables defined by a
header are closed to dotted keys; one that was only passed on the way to another becomes a table of
dotted keys. Of a repeated header's tables the last can be passed but not added to. -/
def assign (v : Value) : List String → Table → Option Table
  | [], _ => none
  | [key], entries =>
    match entries.lookup key with
    | none => some (entries.set key (.leaf v))
    | some _ => none
  | key :: path, entries =>
    match entries.lookup key with
    | none => (assign v path []).map fun sub => entries.set key (.table .dotted sub)
    | some (.table .header _) => none
    | some (.table _ sub) =>
      (assign v path sub).map fun sub => entries.set key (.table .dotted sub)
    | some (.tables last earlier) => do
      guard (path.length ≠ 1)
      return entries.set key (.tables (← assign v path last) earlier)
    | some (.leaf _) => none

/-- Changes the table that a header's path leads to, the last one of a repeated header. -/
def within (change : Table → Option Table) : List String → Table → Option Table
  | [], entries => change entries
  | key :: path, entries =>
    match entries.lookup key with
    | none => (within change path []).map fun sub => entries.set key (.table .passing sub)
    | some (.table origin sub) =>
      (within change path sub).map fun sub => entries.set key (.table origin sub)
    | some (.tables last earlier) =>
      (within change path last).map fun last => entries.set key (.tables last earlier)
    | some (.leaf _) => none

/-- Defines a table by its header. -/
def define (key : String) (entries : Table) : Option Table :=
  match entries.lookup key with
  | none => some (entries.set key (.table .header []))
  | some (.table .passing sub) => some (entries.set key (.table .header sub))
  | some _ => none

/-- Adds a table of a repeated header. -/
def append (key : String) (entries : Table) : Option Table :=
  match entries.lookup key with
  | none => some (entries.set key (.tables [] []))
  | some (.tables last earlier) => some (entries.set key (.tables [] (last :: earlier)))
  | some _ => none

end Table

mutual

def Node.toValue : Node → Value
  | .leaf v => v
  | .table _ entries => .record (membersToValues entries)
  | .tables last earlier => .list (tablesToValues [.record (membersToValues last)] earlier)

/-- The tables before those already made values, which are in order. -/
def tablesToValues (later : List Value) : List (List (String × Node)) → List Value
  | [] => later
  | table :: earlier => tablesToValues (.record (membersToValues table) :: later) earlier

def membersToValues : List (String × Node) → List (String × Value)
  | [] => []
  | (key, node) :: rest => (key, node.toValue) :: membersToValues rest

end

end LoaderGen.Toml

import LoaderGen.Schema.Identifier

/-!
# Columns

A column of a table, of a query result or of a bind parameter.
-/

namespace LoaderGen

structure Column where
  name : String := ""
  /-- The name before it was renamed in the query, or empty. -/
  unaliasedName : String := ""
  notNull : Bool := false
  unsigned : Bool := false
  isArray : Bool := false
  arrayDims : UInt32 := 0
  /-- The column stands for a bind parameter that takes a slice. -/
  isSlice : Bool := false
  /-- The declared length, such as the `1` of `tinyint(1)`. -/
  length : Int32 := 0
  comment : String := ""
  table : Option Identifier := none
  type : Option Identifier := none
  /-- The table whose whole row the column holds. -/
  embedTable : Option Identifier := none
  deriving DecidableEq, Repr, Inhabited

namespace Column

/-- The name that overrides are matched against: the one before renaming, if there is one. -/
def matchName (column : Column) : String :=
  if column.unaliasedName.isEmpty then column.name else column.unaliasedName

/-- The declared type as it is written, empty when there is none. -/
def dataType (column : Column) : String :=
  match column.type with
  | some type => type.toText
  | none => ""

/-- A value is always there: an array is at least empty. -/
def neverNull (column : Column) : Bool := column.notNull || column.isArray

end Column

end LoaderGen

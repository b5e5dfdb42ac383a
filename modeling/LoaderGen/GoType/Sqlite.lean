import LoaderGen.GoType.Rule
import LoaderGen.Text.Casing

/-!
# Types of SQLite

Declared types are compared in lower case, and those with text affinity by how they begin.
-/

namespace LoaderGen.Sqlite

/-- How the declared types with text affinity begin. -/
def textBeginnings : List String :=
  ["character", "varchar", "varyingcharacter", "nchar", "nativecharacter", "nvarchar"]

def beginsWith (s beginning : String) : Bool := beginning.toList.isPrefixOf s.toList

def rule? (declared : String) : Option TypeRule :=
  let dataType := String.ofList (Text.lower declared.toList)
  if ["int", "integer", "tinyint", "smallint", "mediumint", "bigint", "unsignedbigint", "int2",
      "int8"].contains dataType then
    some (.orNull "int64" "database/sql.NullInt64")
  else if dataType = "blob" then some (.fixed "[]byte")
  else if ["real", "double", "doubleprecision", "float"].contains dataType then
    some (.orNull "float64" "database/sql.NullFloat64")
  else if ["boolean", "bool"].contains dataType then some (.orNull "bool" "database/sql.NullBool")
  else if ["date", "datetime", "timestamp"].contains dataType then
    some (.orNull "time.Time" "database/sql.NullTime")
  else if dataType = "any" then some (.fixed anyType)
  else if dataType = "text" ∨ dataType = "clob" ∨ textBeginnings.any (beginsWith dataType) then
    some (.orNull "string" "database/sql.NullString")
  else if dataType = "numeric" ∨ beginsWith dataType "decimal" then
    some (.orNull "float64" "database/sql.NullFloat64")
  else none

end LoaderGen.Sqlite

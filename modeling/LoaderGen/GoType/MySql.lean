import LoaderGen.GoType.Rule

/-!
# Types of MySQL

Null values are wrapped by `database/sql`, and integers without a sign have Go types of their own.
-/

namespace LoaderGen.MySql

def integer (unsigned : Bool) (signedBase unsignedBase null : String) : TypeRule :=
  .orNull (if unsigned then unsignedBase else signedBase) ("database/sql." ++ null)

/-- What becomes of a declared type, given its length and whether it has no sign. -/
def rule? (dataType : String) (length : Int32) (unsigned : Bool) : Option TypeRule :=
  if ["varchar", "text", "char", "tinytext", "mediumtext", "longtext"].contains dataType then
    some (.orNull "string" "database/sql.NullString")
  else if dataType = "tinyint" then
    if length = 1 then some (.orNull "bool" "database/sql.NullBool")
    else some (integer unsigned "int8" "uint8" "NullInt16")
  else if dataType = "year" then some (.orNull "int16" "database/sql.NullInt16")
  else if dataType = "smallint" then some (integer unsigned "int16" "uint16" "NullInt16")
  else if ["int", "integer", "mediumint"].contains dataType then
    some (integer unsigned "int32" "uint32" "NullInt32")
  else if dataType = "bigint" then some (integer unsigned "int64" "uint64" "NullInt64")
  else if ["blob", "binary", "varbinary", "tinyblob", "mediumblob", "longblob"].contains
      dataType then
    some (.orNull "[]byte" "database/sql.NullString")
  else if ["double", "double precision", "real", "float"].contains dataType then
    some (.orNull "float64" "database/sql.NullFloat64")
  else if ["decimal", "dec", "fixed"].contains dataType then
    some (.orNull "string" "database/sql.NullString")
  else if dataType = "enum" then some (.fixed "string")
  else if ["date", "timestamp", "datetime", "time"].contains dataType then
    some (.orNull "time.Time" "database/sql.NullTime")
  else if ["boolean", "bool"].contains dataType then some (.orNull "bool" "database/sql.NullBool")
  else if dataType = "json" then some (.fixed "encoding/json.RawMessage")
  else if dataType = "any" then some (.fixed anyType)
  else none

end LoaderGen.MySql

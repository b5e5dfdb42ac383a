import LoaderGen.GoType.Basic
import LoaderGen.Schema.Catalog

/-!
# Structs

The Go record of a table, with one field for each column kept. A field whose column embeds a row of
another table carries the fields of that table.
-/

namespace LoaderGen

structure Field where
  name : String
  dbName : String
  type : GoType
  /-- The struct tags, sorted by their keys. -/
  tags : List (String × String)
  comment : String
  isPrimaryKey : Bool
  /-- The table whose row the field embeds. -/
  embedTable : Option Identifier
  /-- The fields of the embedded row. -/
  embedFields : List Field
  column : Column
  deriving Repr, Inhabited

namespace Field

def isEmbedded (field : Field) : Bool := field.embedTable.isSome

/-- The tags as they are written behind a field. -/
def tagText (field : Field) : String :=
  " ".intercalate (field.tags.map fun (key, value) => key ++ ":\"" ++ value ++ "\"")

end Field

structure Struct where
  type : GoType
  table : Identifier
  comment : String
  fields : List Field
  deriving Repr, Inhabited

namespace Struct

def typeName (struct : Struct) : String := struct.type.name

/-- The name of the table that exclusions and cache entries use. -/
def fullTableName (struct : Struct) : String := struct.table.toText

def primaryKeys (struct : Struct) : List Field := struct.fields.filter Field.isPrimaryKey

/-- The primary key, if there is exactly one. -/
def primaryKey? (struct : Struct) : Option Field :=
  match struct.primaryKeys with
  | [key] => some key
  | _ => none

/-- A loader can load rows by the primary key. -/
def isLoadable (struct : Struct) : Bool := struct.primaryKey?.isSome

def field? (struct : Struct) (name : String) : Option Field :=
  struct.fields.find? (·.name == name)

def loaderName (struct : Struct) : String := struct.typeName ++ "Loader"

end Struct

end LoaderGen

import LoaderGen.Schema.Request
import LoaderGen.Value.Basic

/-!
# Requests as structured values

Each type of the schema is written as a record and read back from one. Fields that are empty by
default are left out when they are empty; a record without them reads as if they were.
-/

namespace LoaderGen

open Value

def Identifier.toValue (ident : Identifier) : Value :=
  .record <| unlessEmpty "catalog" ident.catalog ++ unlessEmpty "schema" ident.schema ++
    [("name", text ident.name)]

def Identifier.ofValue? (v : Value) : Option Identifier := do
  let fields ← v.fields? .json ["catalog", "schema", "name"]
  return {
    catalog := ← fields.orElse "catalog" "" text?
    schema := ← fields.orElse "schema" "" text?
    name := ← fields.required "name" text? }

def Column.toValue (column : Column) : Value :=
  .record <| [("name", text column.name)] ++
    unlessEmpty "original_name" column.unaliasedName ++
    [("not_null", bool column.notNull), ("unsigned", bool column.unsigned),
      ("is_array", bool column.isArray), ("array_dims", int column.arrayDims.toNat),
      ("is_sqlc_slice", bool column.isSlice), ("length", int column.length.toInt)] ++
    unlessEmpty "comment" column.comment ++
    whenSome "table" Identifier.toValue column.table ++
    whenSome "type" Identifier.toValue column.type ++
    whenSome "embed_table" Identifier.toValue column.embedTable

def Column.ofValue? (v : Value) : Option Column := do
  let fields ← v.fields? .json ["name", "original_name", "not_null", "unsigned", "is_array",
    "array_dims", "is_sqlc_slice", "length", "comment", "table", "type", "embed_table"]
  return {
    name := ← fields.required "name" text?
    unaliasedName := ← fields.orElse "original_name" "" text?
    notNull := ← fields.orElse "not_null" false bool?
    unsigned := ← fields.orElse "unsigned" false bool?
    isArray := ← fields.orElse "is_array" false bool?
    arrayDims := ← fields.orElse "array_dims" 0 word32?
    isSlice := ← fields.orElse "is_sqlc_slice" false bool?
    length := ← fields.orElse "length" 0 int32?
    comment := ← fields.orElse "comment" "" text?
    table := ← fields.orElse "table" none (optional? Identifier.ofValue?)
    type := ← fields.orElse "type" none (optional? Identifier.ofValue?)
    embedTable := ← fields.orElse "embed_table" none (optional? Identifier.ofValue?) }

def Table.toValue (table : Table) : Value :=
  .record <| [("rel", table.rel.toValue), ("columns", list (table.columns.map Column.toValue))] ++
    unlessEmpty "comment" table.comment

def Table.ofValue? (v : Value) : Option Table := do
  let fields ← v.fields? .json ["rel", "columns", "comment"]
  return {
    rel := ← fields.required "rel" Identifier.ofValue?
    columns := ← fields.orElse "columns" [] (listOf? Column.ofValue?)
    comment := ← fields.orElse "comment" "" text? }

def Enum.toValue (enum : Enum) : Value :=
  .record <| [("name", text enum.name), ("vals", list (enum.vals.map text))] ++
    unlessEmpty "comment" enum.comment

def Enum.ofValue? (v : Value) : Option Enum := do
  let fields ← v.fields? .json ["name", "vals", "comment"]
  return {
    name := ← fields.required "name" text?
    vals := ← fields.orElse "vals" [] (listOf? text?)
    comment := ← fields.orElse "comment" "" text? }

def CompositeType.toValue (type : CompositeType) : Value :=
  .record <| [("name", text type.name)] ++ unlessEmpty "comment" type.comment

def CompositeType.ofValue? (v : Value) : Option CompositeType := do
  let fields ← v.fields? .json ["name", "comment"]
  return {
    name := ← fields.required "name" text?
    comment := ← fields.orElse "comment" "" text? }

def Schema.toValue (schema : Schema) : Value :=
  .record <| [("name", text schema.name)] ++ unlessEmpty "comment" schema.comment ++
    [("tables", list (schema.tables.map Table.toValue)),
      ("enums", list (schema.enums.map Enum.toValue)),
      ("composite_types", list (schema.compositeTypes.map CompositeType.toValue))]

def Schema.ofValue? (v : Value) : Option Schema := do
  let fields ← v.fields? .json ["name", "comment", "tables", "enums", "composite_types"]
  return {
    name := ← fields.required "name" text?
    comment := ← fields.orElse "comment" "" text?
    tables := ← fields.orElse "tables" [] (listOf? Table.ofValue?)
    enums := ← fields.orElse "enums" [] (listOf? Enum.ofValue?)
    compositeTypes := ← fields.orElse "composite_types" [] (listOf? CompositeType.ofValue?) }

def Catalog.toValue (catalog : Catalog) : Value :=
  .record <| [("default_schema", text catalog.defaultSchema)] ++
    unlessEmpty "name" catalog.name ++ unlessEmpty "comment" catalog.comment ++
    [("schemas", list (catalog.schemas.map Schema.toValue))]

def Catalog.ofValue? (v : Value) : Option Catalog := do
  let fields ← v.fields? .json ["default_schema", "name", "comment", "schemas"]
  return {
    defaultSchema := ← fields.orElse "default_schema" "" text?
    name := ← fields.orElse "name" "" text?
    comment := ← fields.orElse "comment" "" text?
    schemas := ← fields.orElse "schemas" [] (listOf? Schema.ofValue?) }

def Parameter.toValue (parameter : Parameter) : Value :=
  .record <| [("number", int parameter.number.toInt)] ++
    whenSome "column" Column.toValue parameter.column

def Parameter.ofValue? (v : Value) : Option Parameter := do
  let fields ← v.fields? .json ["number", "column"]
  return {
    number := ← fields.orElse "number" 0 int32?
    column := ← fields.orElse "column" none (optional? Column.ofValue?) }

def Query.toValue (query : Query) : Value :=
  .record <| [("name", Value.text query.name), ("cmd", Value.text query.cmd),
      ("text", Value.text query.text)] ++
    unlessEmpty "filename" query.filename ++
    [("columns", list (query.columns.map Column.toValue)),
      ("params", list (query.params.map Parameter.toValue))] ++
    unlessNil "comments" Value.text query.comments ++
    whenSome "insert_into_table" Identifier.toValue query.insertIntoTable

def Query.ofValue? (v : Value) : Option Query := do
  let fields ← v.fields? .json ["name", "cmd", "text", "filename", "columns", "params", "comments",
    "insert_into_table"]
  return {
    name := ← fields.required "name" text?
    cmd := ← fields.orElse "cmd" "" text?
    text := ← fields.orElse "text" "" text?
    filename := ← fields.orElse "filename" "" text?
    columns := ← fields.orElse "columns" [] (listOf? Column.ofValue?)
    params := ← fields.orElse "params" [] (listOf? Parameter.ofValue?)
    comments := ← fields.orElse "comments" [] (listOf? text?)
    insertIntoTable := ← fields.orElse "insert_into_table" none (optional? Identifier.ofValue?) }

def Settings.toValue (settings : Settings) : Value :=
  .record <| [("engine", text settings.engine)] ++ unlessEmpty "version" settings.version

def Settings.ofValue? (v : Value) : Option Settings := do
  let fields ← v.fields? .json ["engine", "version"]
  return {
    engine := ← fields.orElse "engine" "" text?
    version := ← fields.orElse "version" "" text? }

def Request.toValue (request : Request) : Value :=
  .record <| [("settings", request.settings.toValue), ("catalog", request.catalog.toValue),
      ("queries", list (request.queries.map Query.toValue))] ++
    unlessEmpty "sqlc_version" request.compilerVersion ++
    unlessNil "plugin_options" (fun b : UInt8 => int b.toNat) request.pluginOptions ++
    unlessNil "global_options" (fun b : UInt8 => int b.toNat) request.globalOptions

def Request.ofValue? (v : Value) : Option Request := do
  let fields ← v.fields? .json ["settings", "catalog", "queries", "sqlc_version", "plugin_options",
    "global_options"]
  return {
    settings := ← fields.orElse "settings" {} Settings.ofValue?
    catalog := ← fields.orElse "catalog" {} Catalog.ofValue?
    queries := ← fields.orElse "queries" [] (listOf? Query.ofValue?)
    compilerVersion := ← fields.orElse "sqlc_version" "" text?
    pluginOptions := ← fields.orElse "plugin_options" [] (listOf? byte?)
    globalOptions := ← fields.orElse "global_options" [] (listOf? byte?) }

end LoaderGen

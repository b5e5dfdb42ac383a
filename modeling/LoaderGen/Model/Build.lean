import LoaderGen.GoType.Resolution
import LoaderGen.Model.Numbering
import LoaderGen.Model.Struct

/-!
# Building structs

One struct for each table that a query touches, in catalog order. A column can embed the row of
another table, whose columns can embed further ones; a table is never embedded inside itself, so the
embedding comes to an end with the tables of the catalog.
-/

namespace LoaderGen

namespace Options

/-- The entry is `table.column` for this column, the table bare in the default schema or with its
schema. -/
def entryNames (options : Options) (table : Identifier) (column entry : String) : Bool :=
  match Text.splitAtLast? '.' entry.toList with
  | some (left, right) =>
    let owner := String.ofList left
    String.ofList right == column &&
      (owner == table.toText || (table.schema == options.defaultSchema && owner == table.name))
  | none => false

/-- Some entry of the list names the column. -/
def lists (options : Options) (entries : List String) (table : Identifier) (column : String) :
    Bool :=
  entries.any (options.entryNames table column)

/-- The columns of a table that are not left out. -/
def keptColumns (options : Options) (table : Identifier) (columns : List Column) : List Column :=
  columns.filter fun column => !options.lists options.ignoreColumns table column.name

def structType (options : Options) (schema table : String) : GoType :=
  let type := GoType.named (options.structName schema table)
  match options.modelPath? with
  | some path => type.within options.modelPackage (some path)
  | none => type

def fieldTags (options : Options) (column : String) : List (String × String) :=
  (if options.emitDbTags then [("db", column)] else []) ++
    (if options.emitJsonTags then [("json", options.jsonTag column)] else [])

end Options

/-- The table's name with its schema and without a catalog. -/
def PlacedTable.ident (placed : PlacedTable) : Identifier :=
  { schema := placed.schema, name := placed.table.rel.name }

structure Builder where
  catalog : Catalog
  options : Options
  /-- The type that the engine maps a column to. -/
  mapType : Column → GoType

namespace Builder

/-- The table whose row a column embeds, unless a table of that schema and name is on the path
already. -/
def embedded? (builder : Builder) (path : List Identifier) (column : Column) :
    Option PlacedTable := do
  let target := (← column.embedTable).qualified builder.options.defaultSchema
  if path.any fun seen => seen.schema == target.schema && seen.name == target.name then none
  else builder.catalog.findTable? target

/-- The tables of the catalog that are not on the path. -/
def unvisited (builder : Builder) (path : List Identifier) : List Identifier :=
  (builder.catalog.placedTables.map PlacedTable.ident).filter fun ident => decide (ident ∉ path)

/-- A field before its name is made different from those of its neighbours. -/
def field (builder : Builder) (column : Column) (type : GoType) (embedTable : Option Identifier)
    (embedFields : List Field) : Field where
  name := builder.options.fieldName column.name
  dbName := column.name
  type := type
  tags := builder.options.fieldTags column.name
  comment := column.comment
  isPrimaryKey := false
  embedTable := embedTable
  embedFields := embedFields
  column := column

def nameApart (fields : List Field) : List Field :=
  List.zipWith (fun (field : Field) name => { field with name := name }) fields
    (Numbering.distinct (fields.map Field.name))

theorem embedded?_eq_some {builder : Builder} {path : List Identifier} {column : Column}
    {placed : PlacedTable} (h : builder.embedded? path column = some placed) :
    placed ∈ builder.catalog.placedTables ∧ placed.ident ∉ path ∧
      column.embedTable.map (·.tableIn builder.options.defaultSchema) = some placed.ident := by
  simp only [embedded?, Option.bind_eq_bind, Option.bind_eq_some_iff] at h
  obtain ⟨target, hcolumn, h⟩ := h
  split at h
  · simp at h
  · next hpath =>
    obtain ⟨hmem, hschema, hname⟩ := Catalog.findTable?_eq_some h
    have hne : (target.qualified builder.options.defaultSchema).schema ≠ "" :=
      target.schemaOr_ne builder.options.defaultSchema_ne
    rw [Identifier.schemaOr_of_ne _ hne] at hschema
    have hident : placed.ident = target.tableIn builder.options.defaultSchema := by
      simp only [PlacedTable.ident, hschema, hname]
      rfl
    refine ⟨hmem, fun hseen => hpath ?_, by rw [hcolumn, hident]; rfl⟩
    refine List.any_eq_true.2 ⟨placed.ident, hseen, ?_⟩
    rw [hident]
    simp [Identifier.tableIn, Identifier.qualified]

/-- What a column embeds is looked up by schema and name, so the table found is the one that was
looked for on the path, and one more table of the catalog is visited. -/
theorem length_unvisited_lt {builder : Builder} {path : List Identifier} {column : Column}
    {placed : PlacedTable} (h : builder.embedded? path column = some placed) :
    (builder.unvisited (placed.ident :: path)).length < (builder.unvisited path).length := by
  obtain ⟨hmem, hpath, -⟩ := embedded?_eq_some h
  have hident : placed.ident ∈ builder.unvisited path :=
    List.mem_filter.2 ⟨List.mem_map_of_mem hmem, by simpa using hpath⟩
  have hsub : builder.unvisited (placed.ident :: path) =
      (builder.unvisited path).filter fun ident => decide (ident ≠ placed.ident) := by
    simp only [unvisited, List.filter_filter]
    congr 1
    funext ident
    simp [not_or]
  rw [hsub]
  exact List.length_filter_lt_length_iff_exists.2 ⟨placed.ident, hident, by simp⟩

/-- The fields of the given columns, inside the tables on the path. -/
def fields (builder : Builder) (path : List Identifier) (columns : List Column) : List Field :=
  nameApart <| columns.map fun column =>
    match _h : builder.embedded? path column with
    | some placed =>
      let inner := builder.options.keptColumns placed.ident placed.table.columns
      builder.field column
        (builder.options.structType placed.schema placed.table.rel.name) (some placed.ident)
        (builder.fields (placed.ident :: path) inner)
    | none =>
      builder.field column (builder.options.columnType builder.mapType column) none []
termination_by (builder.unvisited path).length
decreasing_by exact length_unvisited_lt _h

/-- The name that makes a column a primary key where none is configured. -/
def conventionalKey : String := "id"

/-- The field is a primary key by its name and by never being null. -/
def isKeyByConvention (options : Options) (field : Field) : Bool :=
  !field.isEmbedded && field.column.notNull &&
    Text.eqIgnoringAsciiCase (options.fieldName field.dbName) conventionalKey

/-- The fields with the primary keys marked: those that the options name for the table, or, where
they name none, those by convention. -/
def markKeys (options : Options) (table : Identifier) (fields : List Field) : List Field :=
  let isConfigured (field : Field) := options.lists options.primaryKeysColumns table field.dbName
  let isKey := if fields.any isConfigured then isConfigured else isKeyByConvention options
  fields.map fun field => { field with isPrimaryKey := isKey field }

def struct (builder : Builder) (placed : PlacedTable) : Struct where
  type := builder.options.structType placed.schema placed.table.rel.name
  table := placed.ident
  comment := placed.table.comment
  fields := markKeys builder.options placed.ident <| builder.fields [placed.ident] <|
    builder.options.keptColumns placed.ident placed.table.columns

/-- The tables of the user that are among those reached, in catalog order. -/
def reachedTables (builder : Builder) (reached : List Identifier) : List PlacedTable :=
  builder.catalog.placedTables.filter fun placed =>
    !isReservedSchema placed.schema && reached.contains placed.ident

end Builder

/-- The structs of the tables that the queries of a request touch. -/
def Request.structs (request : Request) (options : Options) (types : CustomTypes) :
    Except OptionsError (List Struct) := do
  let engine ← Engine.ofName request.settings.engine
  let builder : Builder := ⟨request.catalog, options, engine.mapType options types⟩
  return (builder.reachedTables (request.reachableTables options.defaultSchema)).map builder.struct

end LoaderGen

import LoaderGen.Schema.Column

/-!
# The catalog

The schemas of a database with their tables and user-defined types.
-/

namespace LoaderGen

structure Table where
  rel : Identifier
  columns : List Column := []
  comment : String := ""
  deriving DecidableEq, Repr, Inhabited

structure Enum where
  name : String
  vals : List String := []
  comment : String := ""
  deriving DecidableEq, Repr, Inhabited

structure CompositeType where
  name : String
  comment : String := ""
  deriving DecidableEq, Repr, Inhabited

structure Schema where
  name : String
  comment : String := ""
  tables : List Table := []
  enums : List Enum := []
  compositeTypes : List CompositeType := []
  deriving DecidableEq, Repr, Inhabited

structure Catalog where
  defaultSchema : String := ""
  name : String := ""
  comment : String := ""
  schemas : List Schema := []
  deriving DecidableEq, Repr, Inhabited

/-- A table with the name of the schema that holds it. -/
structure PlacedTable where
  schema : String
  table : Table
  deriving DecidableEq, Repr, Inhabited

namespace Catalog

/-- The first table of the given name among the schemas of the name meant; a schema listed twice
holds the tables of both. -/
def findTable? (catalog : Catalog) (ident : Identifier) : Option PlacedTable :=
  let wanted := ident.schemaOr catalog.defaultSchema
  (catalog.schemas.filter (·.name == wanted)).findSome? fun schema =>
    (schema.tables.find? (·.rel.name == ident.name)).map (⟨schema.name, ·⟩)

/-- Every table of the catalog, in order. -/
def placedTables (catalog : Catalog) : List PlacedTable :=
  catalog.schemas.flatMap fun schema => schema.tables.map (⟨schema.name, ·⟩)

theorem findTable?_eq_some {catalog : Catalog} {ident : Identifier} {placed : PlacedTable}
    (h : catalog.findTable? ident = some placed) :
    placed ∈ catalog.placedTables ∧ placed.schema = ident.schemaOr catalog.defaultSchema ∧
      placed.table.rel.name = ident.name := by
  obtain ⟨schema, hschema, hfound⟩ := List.exists_of_findSome?_eq_some h
  obtain ⟨table, htable, rfl⟩ := Option.map_eq_some_iff.1 hfound
  obtain ⟨hmem, hwanted⟩ := List.mem_filter.1 hschema
  refine ⟨?_, by simpa using hwanted, by simpa using List.find?_some htable⟩
  simp only [placedTables, List.mem_flatMap, List.mem_map]
  exact ⟨schema, hmem, table, List.mem_of_find?_eq_some htable, rfl⟩

/-- A table is found where the catalog has one of the schema and name meant. -/
theorem exists_findTable?_eq_some {catalog : Catalog} {ident : Identifier} {placed : PlacedTable}
    (hmem : placed ∈ catalog.placedTables)
    (hschema : placed.schema = ident.schemaOr catalog.defaultSchema)
    (hname : placed.table.rel.name = ident.name) :
    ∃ found, catalog.findTable? ident = some found := by
  simp only [placedTables, List.mem_flatMap, List.mem_map] at hmem
  obtain ⟨schema, hin, table, htable, rfl⟩ := hmem
  rw [← Option.isSome_iff_exists]
  simp only [findTable?, List.findSome?_isSome_iff, Option.isSome_map, List.find?_isSome]
  exact ⟨schema, List.mem_filter.2 ⟨hin, by simpa using hschema⟩, table, htable,
    by simpa using hname⟩

end Catalog

end LoaderGen

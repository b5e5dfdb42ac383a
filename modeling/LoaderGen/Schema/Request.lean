import LoaderGen.Schema.Catalog

/-!
# Queries and requests

A request carries the catalog of a database, the queries compiled against it, and the option
documents of the run. Of the queries only the tables that they touch matter.
-/

namespace LoaderGen

structure Parameter where
  number : Int32 := 0
  column : Option Column := none
  deriving DecidableEq, Repr, Inhabited

structure Query where
  name : String
  cmd : String := ""
  text : String := ""
  filename : String := ""
  columns : List Column := []
  params : List Parameter := []
  comments : List String := []
  insertIntoTable : Option Identifier := none
  deriving DecidableEq, Repr, Inhabited

namespace Query

/-- The tables of the result columns, of the parameters, and the one inserted into. -/
def referencedTables (query : Query) : List Identifier :=
  query.columns.filterMap Column.table ++
    (query.params.filterMap Parameter.column).filterMap Column.table ++
    query.insertIntoTable.toList

end Query

structure Settings where
  engine : String := ""
  version : String := ""
  deriving DecidableEq, Repr, Inhabited

/-- What one run works on. -/
structure Request where
  settings : Settings := {}
  catalog : Catalog := {}
  queries : List Query := []
  compilerVersion : String := ""
  /-- The bytes of the options document, or none. -/
  pluginOptions : List UInt8 := []
  /-- The bytes of the document of options shared with other plugins, or none. -/
  globalOptions : List UInt8 := []
  deriving DecidableEq, Repr, Inhabited

namespace Request

/-- The tables that some query touches, by schema and name, in order and none twice. -/
def reachableTables (request : Request) (defaultSchema : String) : List Identifier :=
  Identifier.sorted <|
    (request.queries.flatMap Query.referencedTables).map (·.tableIn defaultSchema)

theorem mem_reachableTables {request : Request} {defaultSchema : String} {table : Identifier} :
    table ∈ request.reachableTables defaultSchema ↔
      ∃ query ∈ request.queries, ∃ ident ∈ query.referencedTables,
        ident.tableIn defaultSchema = table := by
  rw [reachableTables, Identifier.mem_sorted, List.mem_map]
  simp only [List.mem_flatMap]
  constructor
  · rintro ⟨ident, ⟨query, hquery, hident⟩, htable⟩
    exact ⟨query, hquery, ident, hident, htable⟩
  · rintro ⟨query, hquery, ident, hident, htable⟩
    exact ⟨ident, ⟨query, hquery, hident⟩, htable⟩

end Request

end LoaderGen

import LoaderGen.Proofs.Loaders

/-!
# What the queries decide

The queries of a request say which tables of the catalog get a struct, and nothing that comes after
looks at them again. Two requests that differ in their queries alone give the tables that both reach
the same structs and the same loaders. So queries that reach fewer tables give a part of what the
others give, and queries that reach the same tables give the same.
-/

namespace LoaderGen

/-- The query returns or takes a value of the table, or inserts into it. A table is known by its
schema and name, and a name without a schema is in the default one. -/
inductive Query.Touches (query : Query) (defaultSchema : String) : Identifier → Prop where
  | result {column : Column} {ident : Identifier} (hcolumn : column ∈ query.columns)
      (hident : column.table = some ident) :
      query.Touches defaultSchema (ident.tableIn defaultSchema)
  | parameter {parameter : Parameter} {column : Column} {ident : Identifier}
      (hparameter : parameter ∈ query.params) (hcolumn : parameter.column = some column)
      (hident : column.table = some ident) :
      query.Touches defaultSchema (ident.tableIn defaultSchema)
  | target {ident : Identifier} (hident : query.insertIntoTable = some ident) :
      query.Touches defaultSchema (ident.tableIn defaultSchema)

theorem Query.touches_iff {query : Query} {defaultSchema : String} {table : Identifier} :
    query.Touches defaultSchema table ↔
      ∃ ident ∈ query.referencedTables, ident.tableIn defaultSchema = table := by
  simp only [Query.referencedTables, List.mem_append, List.mem_filterMap, Option.mem_toList]
  constructor
  · intro h
    cases h with
    | result hcolumn hident => exact ⟨_, .inl (.inl ⟨_, hcolumn, hident⟩), rfl⟩
    | parameter hparameter hcolumn hident =>
        exact ⟨_, .inl (.inr ⟨_, ⟨_, hparameter, hcolumn⟩, hident⟩), rfl⟩
    | target hident => exact ⟨_, .inr hident, rfl⟩
  · rintro ⟨ident, (⟨column, hcolumn, hident⟩ |
      ⟨column, ⟨parameter, hparameter, hcolumn⟩, hident⟩) | hident, rfl⟩
    · exact .result hcolumn hident
    · exact .parameter hparameter hcolumn hident
    · exact .target hident

namespace Request

variable {request : Request} {options : Options} {defaultSchema : String}

/-- Some query of the request touches the table. -/
def Reaches (request : Request) (defaultSchema : String) (table : Identifier) : Prop :=
  ∃ query ∈ request.queries, query.Touches defaultSchema table

theorem mem_reachableTables_iff {table : Identifier} :
    table ∈ request.reachableTables defaultSchema ↔ request.Reaches defaultSchema table := by
  simp only [mem_reachableTables, Reaches, Query.touches_iff]

instance (request : Request) (defaultSchema : String) :
    DecidablePred (request.Reaches defaultSchema) :=
  fun _ => decidable_of_iff _ mem_reachableTables_iff

theorem structTables_eq_filter :
    request.structTables options = request.catalog.placedTables.filter fun placed =>
      !isReservedSchema placed.schema && request.Reaches options.defaultSchema placed.ident := by
  refine List.filter_congr fun placed _ => ?_
  rw [List.contains_eq_mem, decide_eq_decide.2 mem_reachableTables_iff]

theorem mem_structTables {placed : PlacedTable} :
    placed ∈ request.structTables options ↔
      placed ∈ request.catalog.placedTables ∧ isReservedSchema placed.schema = false ∧
        request.Reaches options.defaultSchema placed.ident := by
  rw [structTables_eq_filter, List.mem_filter, Bool.and_eq_true, Bool.not_eq_true',
    decide_eq_true_eq]

theorem exists_of_mem_resolve {resolution : Resolution}
    (h : request.resolve options = .ok resolution) {struct : Struct}
    (hstruct : struct ∈ resolution.structs) :
    ∃ placed ∈ request.catalog.placedTables, placed.ident = struct.table ∧
      request.Reaches options.defaultSchema placed.ident := by
  obtain ⟨engine, -, hbuilt⟩ := structs_eq_ok.1 (resolve_eq_ok.1 h).1
  rw [hbuilt] at hstruct
  obtain ⟨placed, hplaced, rfl⟩ := List.mem_map.1 hstruct
  obtain ⟨hmem, -, hreached⟩ := mem_structTables.1 hplaced
  exact ⟨placed, hmem, rfl, hreached⟩

/-- A table reached has a schema: the one that it is named with, or the default one. -/
theorem Reaches.schema_ne {table : Identifier} (h : request.Reaches options.defaultSchema table) :
    table.schema ≠ "" := by
  obtain ⟨query, -, htouches⟩ := h
  obtain ⟨ident, -, rfl⟩ := Query.touches_iff.1 htouches
  exact ident.schemaOr_ne options.defaultSchema_ne

end Request

/-- What the resolution has for the tables with a property. -/
def Resolution.restrict (resolution : Resolution) (p : Identifier → Prop) [DecidablePred p] :
    Resolution where
  structs := resolution.structs.filter fun struct => p struct.table
  loaders := resolution.loaders.filter fun loader => p loader.struct.table

/-- Each struct gets its loader by itself, so without some structs the others' loaders are as
before. -/
theorem Loader.assign_filter {structs : List Struct} {cache : List CacheEntry}
    {exclude : List String} {loaders : List Loader} (p : Identifier → Prop) [DecidablePred p]
    (h : assign structs cache exclude = .ok loaders) :
    assign (structs.filter fun struct => p struct.table) cache exclude =
      .ok (loaders.filter fun loader => p loader.struct.table) := by
  have hkeep : ∀ struct loader, ofStruct cache struct = .ok loader →
      decide (p loader.struct.table) = decide (p struct.table) := by
    intro struct loader hloader
    have hstruct : loader.struct = struct := congrArg Prod.fst (struct_name_of_ofStruct hloader)
    rw [hstruct]
  rw [assign, List.filter_comm]
  exact mapM_filter_eq_ok hkeep h

namespace Request

variable {request : Request} {options : Options} {few many : List Query}

/-- The request with other queries. -/
def withQueries (request : Request) (queries : List Query) : Request :=
  { request with queries := queries }

/-- Every table of the catalog that the first queries reach, the second ones reach. -/
def ReachesIn (request : Request) (options : Options) (few many : List Query) : Prop :=
  ∀ placed ∈ request.catalog.placedTables,
    (request.withQueries few).Reaches options.defaultSchema placed.ident →
      (request.withQueries many).Reaches options.defaultSchema placed.ident

instance : Decidable (request.ReachesIn options few many) :=
  inferInstanceAs (Decidable (∀ placed ∈ request.catalog.placedTables, _ → _))

theorem structTables_withQueries (hsub : request.ReachesIn options few many) :
    (request.withQueries few).structTables options =
      ((request.withQueries many).structTables options).filter fun placed =>
        (request.withQueries few).Reaches options.defaultSchema placed.ident := by
  rw [structTables_eq_filter, structTables_eq_filter, List.filter_filter]
  refine List.filter_congr fun placed hplaced => ?_
  by_cases hfew : (request.withQueries few).Reaches options.defaultSchema placed.ident
  · simp [hfew, hsub placed hplaced hfew]
  · simp [hfew]

theorem resolve_withQueries {resolution : Resolution} (hsub : request.ReachesIn options few many)
    (h : (request.withQueries many).resolve options = .ok resolution) :
    (request.withQueries few).resolve options =
      .ok (resolution.restrict ((request.withQueries few).Reaches options.defaultSchema)) := by
  obtain ⟨hstructs, hloaders⟩ := resolve_eq_ok.1 h
  refine resolve_eq_ok.2 ⟨?_, Loader.assign_filter _ hloaders⟩
  obtain ⟨engine, hengine, hbuilt⟩ := structs_eq_ok.1 hstructs
  refine structs_eq_ok.2 ⟨engine, hengine, ?_⟩
  simp only [Resolution.restrict]
  rw [hbuilt, structTables_withQueries hsub, List.filter_map]
  rfl

/-- Where the second queries reach no other table than the first ones, nothing is left out. -/
theorem restrict_withQueries {resolution : Resolution} (hsub : request.ReachesIn options many few)
    (h : (request.withQueries many).resolve options = .ok resolution) :
    resolution.restrict ((request.withQueries few).Reaches options.defaultSchema) = resolution := by
  have hreached : ∀ struct ∈ resolution.structs,
      (request.withQueries few).Reaches options.defaultSchema struct.table := by
    intro struct hstruct
    obtain ⟨placed, hplaced, htable, hmany⟩ := exists_of_mem_resolve h hstruct
    exact htable ▸ hsub placed hplaced hmany
  obtain ⟨structs, loaders⟩ := resolution
  rw [Resolution.restrict, Resolution.mk.injEq, List.filter_eq_self, List.filter_eq_self]
  refine ⟨fun struct hstruct => decide_eq_true (hreached struct hstruct), ?_⟩
  exact fun loader hloader =>
    decide_eq_true (hreached loader.struct (struct_of_mem_loaders h hloader).1)

theorem resolve_withQueries_eq_map (hfinal : options.IsFinalized)
    (hsub : request.ReachesIn options few many) :
    (request.withQueries few).resolve options =
      ((request.withQueries many).resolve options).map
        (·.restrict ((request.withQueries few).Reaches options.defaultSchema)) := by
  cases h : (request.withQueries many).resolve options with
  | ok resolution => exact resolve_withQueries hsub h
  | error e =>
      -- Under finalized options only the engine can be at fault, and both requests name the same.
      rw [resolve_eq_error fun _ => hfinal.isSound] at h
      exact (resolve_eq_error fun _ => hfinal.isSound).2 h

end Request

/-- Structs are made of exactly the tables that the queries reach: one for each such table that the
catalog lists outside the reserved schemas, in its order, and every one has a schema. The queries
matter only through the tables that they reach. Under finalized options queries that reach no more
than others give what the others give for the tables that they reach, and queries that reach the
same tables give the same. -/
theorem resolve_by_reached_tables (request : Request) {options : Options}
    (hfinal : options.IsFinalized) :
    (request.settings.engine ∈ ["postgresql", "mysql", "sqlite"] →
      ∃ resolution, request.resolve options = .ok resolution) ∧
    (∀ resolution, request.resolve options = .ok resolution →
      List.Forall₂ (fun placed struct => struct.IsOf options placed)
        (request.catalog.placedTables.filter fun placed =>
          !isReservedSchema placed.schema && request.Reaches options.defaultSchema placed.ident)
        resolution.structs ∧
      ∀ struct ∈ resolution.structs, struct.table.schema ≠ "") ∧
    ∀ few many : List Query, request.ReachesIn options few many →
      (request.withQueries few).resolve options =
        ((request.withQueries many).resolve options).map
          (·.restrict ((request.withQueries few).Reaches options.defaultSchema)) ∧
      (request.ReachesIn options many few →
        (request.withQueries few).resolve options =
          (request.withQueries many).resolve options) := by
  refine ⟨fun hengine => ?_, fun resolution h => ⟨?_, fun struct hstruct => ?_⟩,
    fun few many hsub => ⟨?_, fun hsup => ?_⟩⟩
  · obtain ⟨engine, hengine⟩ := Engine.exists_ofName hengine
    obtain ⟨loaders, hloaders⟩ := Loader.exists_assign (fun _ => hfinal.isSound)
      ((request.structTables options).map
        (request.builder options (request.customTypes options) engine).struct)
      options.excludeTables
    exact ⟨⟨_, loaders⟩,
      Request.resolve_eq_ok.2 ⟨Request.structs_eq_ok.2 ⟨engine, hengine, rfl⟩, hloaders⟩⟩
  · obtain ⟨engine, -, hbuilt⟩ := Request.structs_eq_ok.1 (Request.resolve_eq_ok.1 h).1
    rw [hbuilt, ← Request.structTables_eq_filter, List.forall₂_map_right_iff]
    exact List.forall₂_same.2 fun placed _ => Builder.isOf_struct _ placed
  · obtain ⟨placed, -, htable, hreached⟩ := Request.exists_of_mem_resolve h hstruct
    exact htable ▸ hreached.schema_ne
  · exact Request.resolve_withQueries_eq_map hfinal hsub
  · rw [Request.resolve_withQueries_eq_map hfinal hsub]
    cases h : (request.withQueries many).resolve options with
    | ok resolution => exact congrArg Except.ok (Request.restrict_withQueries hsup h)
    | error e => rfl

/-- Two tables of the user, one listed twice, and one of the database itself. -/
def libraryRequest : Request where
  settings := { engine := "sqlite" }
  catalog := {
    schemas := [
      { name := "public"
        tables := [{ rel := { name := "authors" } }, { rel := { name := "books" } },
          { rel := { name := "authors" } }] },
      { name := "pg_catalog", tables := [{ rel := { name := "pg_class" } }] }] }

/-- A query that inserts into the table. -/
def insertQuery (table : Identifier) : Query := { name := "add", insertIntoTable := some table }

def authorQueries : List Query :=
  [insertQuery { name := "authors" }, insertQuery { schema := "pg_catalog", name := "pg_class" }]

def bookQueries : List Query := insertQuery { schema := "public", name := "books" } :: authorQueries

/-- A query on books adds the struct of books, and leaves those of authors as they are. -/
theorem resolve_by_books_and_authors :
    ∃ resolution,
      (libraryRequest.withQueries bookQueries).resolve plainOptions = .ok resolution ∧
      resolution.structs.map (·.table.name) = ["authors", "books", "authors"] ∧
      (libraryRequest.withQueries authorQueries).resolve plainOptions =
        .ok (resolution.restrict
          ((libraryRequest.withQueries authorQueries).Reaches plainOptions.defaultSchema)) ∧
      (resolution.restrict ((libraryRequest.withQueries authorQueries).Reaches
        plainOptions.defaultSchema)).structs.map (·.table.name) = ["authors", "authors"] := by
  have hrun := resolve_by_reached_tables libraryRequest isFinalized_plainOptions
  have hsub : libraryRequest.ReachesIn plainOptions authorQueries bookQueries := by decide +kernel
  have hall : ((libraryRequest.withQueries bookQueries).resolve plainOptions).toOption.map
      (·.structs.map (·.table.name)) = some ["authors", "books", "authors"] := by
    decide +kernel
  have hpart : ((libraryRequest.withQueries authorQueries).resolve plainOptions).toOption.map
      (·.structs.map (·.table.name)) = some ["authors", "authors"] := by
    decide +kernel
  obtain ⟨resolution, hresolution, hnames⟩ := Option.map_eq_some_iff.1 hall
  rw [toOption_eq_some] at hresolution
  have hrestrict := (hrun.2.2 authorQueries bookQueries hsub).1
  rw [hresolution] at hrestrict
  refine ⟨resolution, hresolution, hnames, hrestrict, ?_⟩
  rw [hrestrict] at hpart
  exact Option.some_inj.1 hpart

end LoaderGen

import LoaderGen.Proofs.Reach

/-!
# Loaded and dropped tables

A struct gets a loader unless its table is excluded or it has no single primary key. Which tables
are dropped is not noted on the way. They are found afterwards, as the tables of structs that no
loader bears, so a table that the catalog lists several times is dropped only when none of its
structs has a loader. Every table that the queries reach ends in one of the two ways and never in
both.
-/

namespace LoaderGen

namespace Struct

/-- What a struct needs for a loader: its table is not excluded by its full name, and exactly one of
its fields is a primary key. -/
structure GetsLoader (struct : Struct) (exclude : List String) : Prop where
  notExcluded : struct.fullTableName ∉ exclude
  oneKey : struct.fields.countP Field.isPrimaryKey = 1

theorem isWanted_iff_getsLoader {struct : Struct} {exclude : List String} :
    Loader.isWanted exclude struct = true ↔ struct.GetsLoader exclude := by
  rw [Loader.isWanted, Bool.and_eq_true, isLoadable_iff]
  constructor
  · intro h
    exact ⟨by simpa using h.1, h.2⟩
  · intro h
    exact ⟨by simpa using h.notExcluded, h.oneKey⟩

instance (exclude : List String) : DecidablePred (GetsLoader · exclude) :=
  fun _ => decidable_of_iff _ isWanted_iff_getsLoader

end Struct

theorem Loader.filter_isWanted (structs : List Struct) (exclude : List String) :
    structs.filter (isWanted exclude) = structs.filter fun struct => struct.GetsLoader exclude := by
  refine List.filter_congr fun struct _ => ?_
  rw [Bool.eq_iff_iff, decide_eq_true_eq]
  exact Struct.isWanted_iff_getsLoader

namespace Resolution

variable {resolution : Resolution} {table : Identifier}

theorem droppedTables_eq_filter (resolution : Resolution) :
    resolution.droppedTables =
      (resolution.structs.map Struct.table).filter fun table =>
        table ∉ resolution.loadedTables := by
  refine List.filter_congr fun table _ => ?_
  have hloaded : (resolution.loaders.any fun loader => loader.struct.table == table) =
      decide (table ∈ resolution.loadedTables) := by
    rw [Bool.eq_iff_iff]
    simp [loadedTables]
  rw [hloaded, decide_not]

theorem mem_droppedTables :
    table ∈ resolution.droppedTables ↔
      table ∈ resolution.structs.map Struct.table ∧ table ∉ resolution.loadedTables := by
  rw [droppedTables_eq_filter, List.mem_filter, decide_eq_true_eq]

/-- A table without a loader is dropped as often as structs have it. -/
theorem count_droppedTables :
    resolution.droppedTables.count table =
      if table ∈ resolution.loadedTables then 0
      else (resolution.structs.map Struct.table).count table := by
  split
  · next hloaded =>
    apply List.count_eq_zero_of_not_mem
    intro hdropped
    exact (mem_droppedTables.1 hdropped).2 hloaded
  · next hunloaded =>
    rw [droppedTables_eq_filter, List.count_filter]
    exact decide_eq_true hunloaded

end Resolution

namespace Request

variable {request : Request} {options : Options} {resolution : Resolution} {table : Identifier}

theorem map_struct_loaders (h : request.resolve options = .ok resolution) :
    resolution.loaders.map Loader.struct =
      resolution.structs.filter fun struct => struct.GetsLoader options.excludeTables := by
  rw [Loader.map_struct_of_assign (resolve_eq_ok.1 h).2, Loader.filter_isWanted]

/-- One struct that gets a loader is enough for its table. -/
theorem mem_loadedTables (h : request.resolve options = .ok resolution) :
    table ∈ resolution.loadedTables ↔
      ∃ struct ∈ resolution.structs,
        struct.table = table ∧ struct.GetsLoader options.excludeTables := by
  have htables : resolution.loadedTables =
      (resolution.loaders.map Loader.struct).map Struct.table := by
    rw [List.map_map]
    rfl
  rw [htables, map_struct_loaders h]
  simp only [List.mem_map, List.mem_filter, decide_eq_true_eq]
  constructor
  · intro hfound
    obtain ⟨struct, ⟨hstruct, hloader⟩, htable⟩ := hfound
    exact ⟨struct, hstruct, htable, hloader⟩
  · intro hfound
    obtain ⟨struct, hstruct, htable, hloader⟩ := hfound
    exact ⟨struct, ⟨hstruct, hloader⟩, htable⟩

/-- The tables of the structs are those of the catalog that are reached, reserved schemas apart. -/
theorem mem_tables_of_structs (h : request.resolve options = .ok resolution) :
    table ∈ resolution.structs.map Struct.table ↔
      table ∈ request.catalog.placedTables.map PlacedTable.ident ∧
        isReservedSchema table.schema = false ∧ request.Reaches options.defaultSchema table := by
  obtain ⟨engine, -, hbuilt⟩ := structs_eq_ok.1 (resolve_eq_ok.1 h).1
  have htables : resolution.structs.map Struct.table =
      (request.structTables options).map PlacedTable.ident := by
    rw [hbuilt, List.map_map]
    rfl
  rw [htables, structTables_eq_filter]
  simp only [List.mem_map, List.mem_filter, Bool.and_eq_true, Bool.not_eq_true', decide_eq_true_eq]
  constructor
  · intro hfound
    obtain ⟨placed, ⟨hplaced, hreserved, hreached⟩, rfl⟩ := hfound
    exact ⟨⟨placed, hplaced, rfl⟩, hreserved, hreached⟩
  · intro hfound
    obtain ⟨⟨placed, hplaced, rfl⟩, hreserved, hreached⟩ := hfound
    exact ⟨placed, ⟨hplaced, hreserved, hreached⟩, rfl⟩

end Request

/-- Every table reached ends in exactly one way. The loaders are made of the structs that are not
excluded and have a single primary key, in order and as they are. The tables of the structs, which
are those that the queries reach, are the loaded ones and the dropped ones, and no table is both. A
table is dropped, once for each of its structs, exactly when none of them gets a loader. -/
theorem tables_loaded_or_dropped {request : Request} {options : Options} {resolution : Resolution}
    (h : request.resolve options = .ok resolution) :
    (resolution.loaders.map Loader.struct =
      resolution.structs.filter fun struct => struct.GetsLoader options.excludeTables) ∧
    (∀ table, table ∈ resolution.structs.map Struct.table ↔
      table ∈ request.catalog.placedTables.map PlacedTable.ident ∧
        isReservedSchema table.schema = false ∧ request.Reaches options.defaultSchema table) ∧
    (∀ table, table ∈ resolution.structs.map Struct.table ↔
      table ∈ resolution.loadedTables ∨ table ∈ resolution.droppedTables) ∧
    resolution.loadedTables.Disjoint resolution.droppedTables ∧
    ∀ table, resolution.droppedTables.count table =
      if ∀ struct ∈ resolution.structs, struct.table = table →
          ¬ struct.GetsLoader options.excludeTables
      then (resolution.structs.map Struct.table).count table
      else 0 := by
  refine ⟨Request.map_struct_loaders h, fun table => Request.mem_tables_of_structs h,
    fun table => ?_, ?_, fun table => ?_⟩
  · have hloaded : table ∈ resolution.loadedTables →
        table ∈ resolution.structs.map Struct.table := by
      intro hloaded
      obtain ⟨struct, hstruct, htable, -⟩ := (Request.mem_loadedTables h).1 hloaded
      exact List.mem_map.2 ⟨struct, hstruct, htable⟩
    rw [Resolution.mem_droppedTables]
    by_cases hcase : table ∈ resolution.loadedTables
    · simp [hcase, hloaded hcase]
    · simp [hcase]
  · intro table hloaded hdropped
    exact (Resolution.mem_droppedTables.1 hdropped).2 hloaded
  · have hnone : (∀ struct ∈ resolution.structs, struct.table = table →
        ¬ struct.GetsLoader options.excludeTables) ↔ table ∉ resolution.loadedTables := by
      rw [Request.mem_loadedTables h]
      simp
    rw [Resolution.count_droppedTables, if_congr hnone rfl rfl, ite_not]

/-- Authors are listed with a key and without one, books have a key, and tags, listed twice, have
none. Queries insert into all of them. -/
def shelfRequest : Request where
  settings := { engine := "sqlite" }
  catalog := {
    schemas := [{
      name := "public"
      tables := [keyed "authors", keyless "authors", keyed "books", keyless "tags",
        keyless "tags"] }] }
  queries := ["authors", "books", "tags"].map fun name => insertQuery { name := name }
where
  keyed (name : String) : Table :=
    { rel := { name := name }
      columns := [{ name := "id", notNull := true, type := some { name := "integer" } }] }
  keyless (name : String) : Table := { rel := { name := name } }

def withoutBooks : Options := { plainOptions with excludeTables := ["public.books"] }

/-- The second struct of authors does not drop them, and tags are dropped twice. -/
theorem authors_loaded_and_tags_dropped :
    ∃ resolution, shelfRequest.resolve withoutBooks = .ok resolution ∧
      { schema := "public", name := "authors" } ∈ resolution.loadedTables ∧
      { schema := "public", name := "authors" } ∉ resolution.droppedTables ∧
      resolution.droppedTables.count { schema := "public", name := "tags" } = 2 := by
  have hrun : (shelfRequest.resolve withoutBooks).toOption.map (fun resolution =>
      resolution.structs.map fun struct =>
        (struct.table, decide (struct.GetsLoader withoutBooks.excludeTables))) =
      some [({ schema := "public", name := "authors" }, true),
        ({ schema := "public", name := "authors" }, false),
        ({ schema := "public", name := "books" }, false),
        ({ schema := "public", name := "tags" }, false),
        ({ schema := "public", name := "tags" }, false)] := by
    decide +kernel
  obtain ⟨resolution, hresolution, hstructs⟩ := Option.map_eq_some_iff.1 hrun
  have hresolve := toOption_eq_some.1 hresolution
  have htables := congrArg (List.map Prod.fst) hstructs
  rw [List.map_map] at htables
  obtain ⟨-, -, -, hdisjoint, hcount⟩ := tables_loaded_or_dropped hresolve
  have hauthors : { schema := "public", name := "authors" } ∈ resolution.loadedTables := by
    have hkeyed : (({ schema := "public", name := "authors" } : Identifier), true) ∈
        resolution.structs.map fun struct =>
          (struct.table, decide (struct.GetsLoader withoutBooks.excludeTables)) := by
      rw [hstructs]
      exact List.mem_cons_self
    obtain ⟨struct, hstruct, hpair⟩ := List.mem_map.1 hkeyed
    obtain ⟨htable, hgets⟩ := Prod.mk.inj hpair
    exact (Request.mem_loadedTables hresolve).2 ⟨struct, hstruct, htable, of_decide_eq_true hgets⟩
  refine ⟨resolution, hresolve, hauthors, hdisjoint hauthors, ?_⟩
  have htags : ∀ struct ∈ resolution.structs,
      struct.table = { schema := "public", name := "tags" } →
        ¬ struct.GetsLoader withoutBooks.excludeTables := by
    intro struct hstruct htable hgets
    have hpair : (struct.table, decide (struct.GetsLoader withoutBooks.excludeTables)) ∈
        resolution.structs.map fun struct =>
          (struct.table, decide (struct.GetsLoader withoutBooks.excludeTables)) :=
      List.mem_map_of_mem hstruct
    rw [hstructs, htable, decide_eq_true hgets] at hpair
    exact absurd hpair (by decide)
  rw [hcount, if_pos htags]
  exact congrArg (List.count _) htables

end LoaderGen

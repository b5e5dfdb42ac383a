import LoaderGen.Proofs.Reach

/-!
# Caches and exclusions

The cache entries and the excluded tables of the options say which loaders are made and how each of
them caches. Structs are built before either is looked at, and each struct gets its loader by
itself. So other settings leave every struct as it is, other cache entries change nothing but
caches, and an excluded table takes its own loaders away and touches no other.
-/

namespace LoaderGen

/-- The options with other cache entries and other excluded tables. -/
def Options.withLoaderSettings (options : Options) (cache : List CacheEntry)
    (exclude : List String) : Options :=
  { options with cache := cache, excludeTables := exclude }

namespace Builder

variable {builder : Builder} {cache : List CacheEntry} {exclude : List String}

def withLoaderSettings (builder : Builder) (cache : List CacheEntry) (exclude : List String) :
    Builder :=
  { builder with options := builder.options.withLoaderSettings cache exclude }

theorem embedded?_withLoaderSettings (path : List Identifier) (column : Column) :
    (builder.withLoaderSettings cache exclude).embedded? path column =
      builder.embedded? path column :=
  rfl

/-- Fields are built alike at every depth. The induction follows the building itself, from the
columns of a row to those of the rows embedded in it. -/
theorem fields_withLoaderSettings (path : List Identifier) (columns : List Column) :
    (builder.withLoaderSettings cache exclude).fields path columns =
      builder.fields path columns := by
  induction path, columns using Builder.fields.induct builder with
  | case1 path columns ih =>
      rw [fields_eq_nameApart, fields_eq_nameApart]
      congr 1
      refine List.map_congr_left fun column _ => ?_
      unfold columnField
      rw [embedded?_withLoaderSettings]
      cases hembedded : builder.embedded? path column with
      | none => rfl
      | some placed =>
          have hinner := ih column placed hembedded
          change builder.field column _ _ _ = builder.field column _ _ _
          congr 1

theorem struct_withLoaderSettings (placed : PlacedTable) :
    (builder.withLoaderSettings cache exclude).struct placed = builder.struct placed := by
  calc (builder.withLoaderSettings cache exclude).struct placed
      = { builder.struct placed with
          fields := markKeys builder.options placed.ident <|
            (builder.withLoaderSettings cache exclude).fields [placed.ident] <|
              builder.options.keptColumns placed.ident placed.table.columns } := rfl
    _ = builder.struct placed := by rw [fields_withLoaderSettings]; rfl

end Builder

namespace Request

variable {request : Request} {options : Options} {cache : List CacheEntry} {exclude : List String}

theorem customTypes_withLoaderSettings :
    request.customTypes (options.withLoaderSettings cache exclude) = request.customTypes options :=
  rfl

theorem structs_withLoaderSettings (types : CustomTypes) :
    request.structs (options.withLoaderSettings cache exclude) types =
      request.structs options types := by
  unfold structs
  refine bind_congr fun engine => ?_
  have hstruct :
      ((request.builder options types engine).withLoaderSettings cache exclude).struct =
        (request.builder options types engine).struct := by
    funext placed
    exact Builder.struct_withLoaderSettings placed
  exact congrArg (fun build => Except.ok (((request.builder options types engine).reachedTables
    (request.reachableTables options.defaultSchema)).map build)) hstruct

end Request

namespace Loader

variable {structs : List Struct} {cache : List CacheEntry} {exclude more added : List String}
  {loaders : List Loader}

theorem filter_isWanted_of_added
    (hmore : ∀ name, name ∈ more ↔ name ∈ exclude ∨ name ∈ added) :
    structs.filter (isWanted more) =
      (structs.filter fun struct => struct.table.toText ∉ added).filter (isWanted exclude) := by
  rw [List.filter_filter]
  refine List.filter_congr fun struct _ => ?_
  have hcontains : more.contains struct.fullTableName =
      (exclude.contains struct.fullTableName || decide (struct.table.toText ∈ added)) := by
    rw [Bool.eq_iff_iff, Bool.or_eq_true, decide_eq_true_eq, List.contains_iff_mem,
      List.contains_iff_mem]
    exact hmore struct.fullTableName
  rw [isWanted, isWanted, hcontains, Bool.not_or, decide_not, Bool.and_right_comm]

/-- Whatever cache entries there are for an excluded table, the other loaders have the caches they
had before. -/
theorem assign_of_added (hmore : ∀ name, name ∈ more ↔ name ∈ exclude ∨ name ∈ added)
    (h : assign structs cache exclude = .ok loaders) :
    assign structs cache more =
      .ok (loaders.filter fun loader => loader.struct.table.toText ∉ added) := by
  have hpart := assign_filter (fun table => table.toText ∉ added) h
  unfold assign at hpart ⊢
  rw [filter_isWanted_of_added hmore]
  exact hpart

end Loader

/-- The resolution without the loaders of the tables with these full names. -/
def Resolution.without (resolution : Resolution) (tables : List String) : Resolution where
  structs := resolution.structs
  loaders := resolution.loaders.filter fun loader => loader.struct.fullTableName ∉ tables

namespace Request

variable {request : Request} {options : Options} {cache : List CacheEntry} {exclude : List String}

theorem resolve_withLoaderSettings_eq_ok {resolution other : Resolution}
    (h : request.resolve options = .ok resolution) :
    request.resolve (options.withLoaderSettings cache exclude) = .ok other ↔
      other.structs = resolution.structs ∧
        Loader.assign resolution.structs cache exclude = .ok other.loaders := by
  have hstructs := (resolve_eq_ok.1 h).1
  rw [resolve_eq_ok, customTypes_withLoaderSettings, structs_withLoaderSettings, hstructs,
    Except.ok.injEq, eq_comm]
  refine and_congr_right fun hsame => ?_
  rw [hsame]
  exact Iff.rfl

/-- Sound settings are at fault nowhere, so both runs meet the same fault or none. -/
theorem resolve_withLoaderSettings_eq_error (hfinal : options.IsFinalized)
    (hother : (options.withLoaderSettings cache exclude).IsFinalized) {e : OptionsError} :
    request.resolve (options.withLoaderSettings cache exclude) = .error e ↔
      request.resolve options = .error e := by
  rw [resolve_eq_error fun _ => hother.isSound, resolve_eq_error fun _ => hfinal.isSound]

theorem map_resolve_withLoaderSettings {γ : Type} {f : Resolution → γ}
    (hfinal : options.IsFinalized)
    (hother : (options.withLoaderSettings cache exclude).IsFinalized)
    (hkeep : ∀ resolution loaders, request.resolve options = .ok resolution →
      Loader.assign resolution.structs cache exclude = .ok loaders →
        f ⟨resolution.structs, loaders⟩ = f resolution) :
    (request.resolve (options.withLoaderSettings cache exclude)).map f =
      (request.resolve options).map f := by
  cases h : request.resolve options with
  | error e =>
      have hfails := (resolve_withLoaderSettings_eq_error hfinal hother).2 h
      rw [hfails]
  | ok resolution =>
      obtain ⟨loaders, hloaders⟩ := Loader.exists_assign (fun _ => hother.isSound)
        resolution.structs exclude
      have hresolve : request.resolve (options.withLoaderSettings cache exclude) =
          .ok ⟨resolution.structs, loaders⟩ :=
        (resolve_withLoaderSettings_eq_ok h).2 ⟨rfl, hloaders⟩
      rw [hresolve]
      exact congrArg Except.ok (hkeep resolution loaders h hloaders)

end Request

/-- Other cache entries and other exclusions change no struct. Other cache entries alone make as
many loaders of the same structs under the same names, with other caches at most. Further
exclusions alone take away the loaders of the tables added, whatever cache entries name them, and
leave the others in order and with their caches. -/
theorem settings_change_loaders_alone (request : Request) {options : Options}
    {cache : List CacheEntry} {exclude : List String} (hfinal : options.IsFinalized)
    (hother : (options.withLoaderSettings cache exclude).IsFinalized) :
    ((request.resolve (options.withLoaderSettings cache exclude)).map Resolution.structs =
      (request.resolve options).map Resolution.structs) ∧
    (exclude = options.excludeTables →
      (request.resolve (options.withLoaderSettings cache exclude)).map
          (fun resolution => resolution.loaders.map fun loader => (loader.struct, loader.name)) =
        (request.resolve options).map
          fun resolution => resolution.loaders.map fun loader => (loader.struct, loader.name)) ∧
    ∀ added, cache = options.cache →
      (∀ name, name ∈ exclude ↔ name ∈ options.excludeTables ∨ name ∈ added) →
      request.resolve (options.withLoaderSettings cache exclude) =
        (request.resolve options).map (·.without added) := by
  refine ⟨?_, ?_, ?_⟩
  · exact Request.map_resolve_withLoaderSettings hfinal hother fun _ _ _ _ => rfl
  · intro hexclude
    apply Request.map_resolve_withLoaderSettings hfinal hother
    intro resolution loaders h hloaders
    rw [hexclude] at hloaders
    have hbefore := Loader.map_struct_name_of_assign (Request.resolve_eq_ok.1 h).2
    have hafter := Loader.map_struct_name_of_assign hloaders
    exact hafter.trans hbefore.symm
  · intro added hcache hmore
    cases h : request.resolve options with
    | error e => exact (Request.resolve_withLoaderSettings_eq_error hfinal hother).2 h
    | ok resolution =>
        have hpart := Loader.assign_of_added hmore (Request.resolve_eq_ok.1 h).2
        rw [← hcache] at hpart
        exact (Request.resolve_withLoaderSettings_eq_ok h).2 ⟨rfl, hpart⟩

/-- Authors and books have a key each, and queries insert into both. -/
def keyedLibrary : Request where
  settings := { engine := "sqlite" }
  catalog := {
    schemas := [{
      name := "public"
      tables := ["authors", "books"].map fun name =>
        { rel := { name := name }
          columns := [{ name := "id", notNull := true, type := some { name := "integer" } }] } }] }
  queries := ["authors", "books"].map fun name => insertQuery { name := name }

/-- Authors are kept in memory, and books are not kept. -/
def authorsInMemory : Options :=
  { plainOptions with cache := [{ table := "public.authors", kind := "memory" }] }

def someBooks : List CacheEntry :=
  [{ loaderName := "BookLoader", kind := "lru", size := 10, ttl := "1m" }]

/-- A bounded cache of books takes the cache of authors' place and changes no struct and no loader
but for that. Excluded, authors lose their loader, which has a cache entry, and books keep
theirs. -/
theorem settings_of_keyed_library :
    ∃ resolution bounded, keyedLibrary.resolve authorsInMemory = .ok resolution ∧
      resolution.loaders.map (fun loader => (loader.name, loader.cache)) =
        [("AuthorLoader", .unboundedMemory), ("BookLoader", .noCache)] ∧
      keyedLibrary.resolve (authorsInMemory.withLoaderSettings someBooks []) = .ok bounded ∧
      bounded.structs = resolution.structs ∧
      bounded.loaders.map (fun loader => (loader.struct, loader.name)) =
        resolution.loaders.map (fun loader => (loader.struct, loader.name)) ∧
      keyedLibrary.resolve
          (authorsInMemory.withLoaderSettings authorsInMemory.cache ["public.authors"]) =
        .ok (resolution.without ["public.authors"]) := by
  have hfinal : authorsInMemory.IsFinalized :=
    ⟨{ package := "db", cache := authorsInMemory.cache }, "",
      toOption_eq_some.1 (by decide +kernel)⟩
  have hbounded : (authorsInMemory.withLoaderSettings someBooks []).IsFinalized :=
    ⟨{ package := "db", cache := someBooks }, "", toOption_eq_some.1 (by decide +kernel)⟩
  have hexcluded : (authorsInMemory.withLoaderSettings authorsInMemory.cache
      ["public.authors"]).IsFinalized :=
    ⟨{ package := "db", cache := authorsInMemory.cache, excludeTables := ["public.authors"] }, "",
      toOption_eq_some.1 (by decide +kernel)⟩
  have hrun : (keyedLibrary.resolve authorsInMemory).toOption.map
      (·.loaders.map fun loader => (loader.name, loader.cache)) =
      some [("AuthorLoader", .unboundedMemory), ("BookLoader", .noCache)] := by
    decide +kernel
  obtain ⟨resolution, hresolution, hcaches⟩ := Option.map_eq_some_iff.1 hrun
  have hresolve := toOption_eq_some.1 hresolution
  obtain ⟨hstructs, hloaders, -⟩ := settings_change_loaders_alone keyedLibrary hfinal hbounded
  obtain ⟨-, -, hwithout⟩ := settings_change_loaders_alone keyedLibrary hfinal hexcluded
  have hloaders := hloaders rfl
  have hwithout := hwithout ["public.authors"] rfl fun name => (or_iff_right List.not_mem_nil).symm
  obtain ⟨bounded, hresolved⟩ := exists_eq_ok_of_isOk (show (keyedLibrary.resolve
    (authorsInMemory.withLoaderSettings someBooks [])).isOk = true by decide +kernel)
  rw [hresolved, hresolve] at hstructs hloaders
  rw [hresolve] at hwithout
  exact ⟨resolution, bounded, hresolve, hcaches, hresolved, Except.ok.inj hstructs,
    Except.ok.inj hloaders, hwithout⟩

end LoaderGen

import LoaderGen.Proofs.Model.Structs
import LoaderGen.Proofs.Options.Finalize
import LoaderGen.Resolution

/-!
# The loaders of a resolution

A cache entry is read twice: once when the options are finalized, and again for each loader that it
is for. The second reading is of an entry that the first one has passed, so it meets no fault. The
loaders are those of the structs that get one, in order, and so their tables are tables of the
catalog in its order.
-/

namespace LoaderGen

namespace Loader

theorem exists_assignPolicy {cache : List CacheEntry} (h : ∀ entry ∈ cache, entry.IsSound)
    (table loaderName : String) : ∃ policy, assignPolicy cache table loaderName = .ok policy := by
  induction cache with
  | nil => exact ⟨.noCache, rfl⟩
  | cons entry rest ih =>
      have hrest := ih fun other hother => h other (List.mem_cons_of_mem entry hother)
      obtain ⟨policy, hpolicy⟩ := h entry List.mem_cons_self
      unfold assignPolicy
      split
      · rw [hpolicy]
        cases policy with
        | none => exact hrest
        | some policy => exact ⟨policy, rfl⟩
      · exact hrest

theorem exists_assign {cache : List CacheEntry} (h : ∀ entry ∈ cache, entry.IsSound)
    (structs : List Struct) (exclude : List String) :
    ∃ loaders, assign structs cache exclude = .ok loaders := by
  refine exists_mapM_eq_ok.2 fun struct _ => ?_
  obtain ⟨policy, hpolicy⟩ := exists_assignPolicy h struct.fullTableName struct.loaderName
  exact ⟨_, bind_eq_ok.2 ⟨policy, hpolicy, rfl⟩⟩

theorem struct_name_of_ofStruct {cache : List CacheEntry} {struct : Struct} {loader : Loader}
    (h : ofStruct cache struct = .ok loader) :
    (loader.struct, loader.name) = (struct, struct.loaderName) := by
  obtain ⟨policy, -, hloader⟩ := bind_eq_ok.1 h
  cases hloader
  rfl

variable {structs : List Struct} {cache : List CacheEntry} {exclude : List String}
  {loaders : List Loader}

theorem map_struct_name_of_assign (h : assign structs cache exclude = .ok loaders) :
    loaders.map (fun loader => (loader.struct, loader.name)) =
      (structs.filter (isWanted exclude)).map fun struct => (struct, struct.loaderName) :=
  map_eq_of_mapM_eq_ok (fun _ _ hloader => struct_name_of_ofStruct hloader) h

theorem map_struct_of_assign (h : assign structs cache exclude = .ok loaders) :
    loaders.map Loader.struct = structs.filter (isWanted exclude) := by
  have hstructs := congrArg (List.map Prod.fst) (map_struct_name_of_assign h)
  rw [List.map_map, List.map_map] at hstructs
  exact hstructs.trans (List.map_id _)

end Loader

namespace Resolution

/-- The tables with a loader, in catalog order. -/
def loadedTables (resolution : Resolution) : List Identifier :=
  resolution.loaders.map fun loader => loader.struct.table

end Resolution

namespace Request

variable {request : Request} {options : Options} {resolution : Resolution}

/-- The custom types that the structs of a request are built with. -/
def customTypes (request : Request) (options : Options) : CustomTypes :=
  CustomTypes.build request.catalog.schemas options
    (options.modelPath?.map fun _ => options.modelPackage)

theorem resolve_eq_ok :
    request.resolve options = .ok resolution ↔
      request.structs options (request.customTypes options) = .ok resolution.structs ∧
        Loader.assign resolution.structs options.cache options.excludeTables
          = .ok resolution.loaders := by
  simp only [resolve, bind_eq_ok]
  constructor
  · rintro ⟨structs, hstructs, loaders, hloaders, h⟩
    cases h
    exact ⟨hstructs, hloaders⟩
  · rintro ⟨hstructs, hloaders⟩
    exact ⟨resolution.structs, hstructs, resolution.loaders, hloaders, rfl⟩

theorem resolve_eq_error (h : ∀ entry ∈ options.cache, entry.IsSound) {e : OptionsError} :
    request.resolve options = .error e ↔ Engine.ofName request.settings.engine = .error e := by
  simp only [resolve, bind_eq_error, structs_eq_error]
  constructor
  · rintro (hengine | ⟨structs, -, hloaders | ⟨loaders, -, hdone⟩⟩)
    · exact hengine
    · obtain ⟨loaders, hok⟩ := Loader.exists_assign h structs options.excludeTables
      rw [hok] at hloaders
      cases hloaders
    · cases hdone
  · exact .inl

theorem struct_of_mem_loaders (h : request.resolve options = .ok resolution) {loader : Loader}
    (hloader : loader ∈ resolution.loaders) :
    loader.struct ∈ resolution.structs ∧
      Loader.isWanted options.excludeTables loader.struct = true := by
  have hstructs := Loader.map_struct_of_assign (resolve_eq_ok.1 h).2
  exact List.mem_filter.1 (hstructs ▸ List.mem_map_of_mem hloader)

theorem isLoadable_of_mem_loaders (h : request.resolve options = .ok resolution) {loader : Loader}
    (hloader : loader ∈ resolution.loaders) : loader.struct.isLoadable = true := by
  have hwanted := (struct_of_mem_loaders h hloader).2
  rw [Loader.isWanted, Bool.and_eq_true] at hwanted
  exact hwanted.2

/-- A loader is made for no table twice that the catalog lists once. -/
theorem loadedTables_sublist (h : request.resolve options = .ok resolution) :
    resolution.loadedTables.Sublist (request.catalog.placedTables.map PlacedTable.ident) := by
  obtain ⟨hstructs, hloaders⟩ := resolve_eq_ok.1 h
  obtain ⟨engine, -, hbuilt⟩ := structs_eq_ok.1 hstructs
  have hstructTables : resolution.structs.map Struct.table =
      (request.structTables options).map PlacedTable.ident := by
    rw [hbuilt, List.map_map]
    rfl
  have hloaded : resolution.loadedTables =
      (resolution.structs.filter (Loader.isWanted options.excludeTables)).map Struct.table := by
    rw [← Loader.map_struct_of_assign hloaders, List.map_map]
    rfl
  rw [hloaded]
  refine (List.filter_sublist.map Struct.table).trans ?_
  rw [hstructTables]
  exact List.filter_sublist.map PlacedTable.ident

end Request

end LoaderGen

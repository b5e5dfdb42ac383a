import LoaderGen.Generate
import LoaderGen.Proofs.Loaders
import LoaderGen.Proofs.Lookup

/-!
# The names of the files

The file of a loader is named for the struct of its table, in snake case. Two tables can have one
name there, as `author` and `authors` have, and beside the structs of another package a loader can
have the name of the factory. These are the only ways in which files of a run share a name. Where
they are excluded, every file of a response is the one found by its name.
-/

namespace LoaderGen

namespace Options

variable {options : Options} {table other : Identifier}

/-- What the file of a table's loader is named for. -/
def fileStem (options : Options) (table : Identifier) : String :=
  Naming.restyle .snake (options.structName table.schema table.name)

def loaderFile (options : Options) (table : Identifier) : String :=
  if options.isSeparate then options.package ++ "/" ++ options.fileStem table ++ ".go"
  else options.fileStem table ++ "_loader.go"

theorem structType_name (options : Options) (schema table : String) :
    (options.structType schema table).name = options.structName schema table := by
  unfold structType
  split <;> rfl

theorem loaderFile_eq_iff :
    options.loaderFile table = options.loaderFile other ↔
      options.fileStem table = options.fileStem other := by
  unfold loaderFile
  split
  · rw [String.append_left_inj, String.append_right_inj]
  · rw [String.append_left_inj]

/-- A loader's file beside the structs ends differently than the factory's does. -/
theorem stem_ne_factory (stem : String) : stem ++ "_loader.go" ≠ "loader_factory.go" := by
  intro h
  have hsuffix : "_loader.go".toList <:+ "loader_factory.go".toList :=
    ⟨stem.toList, by rw [← String.toList_append, h]⟩
  exact absurd hsuffix (by decide)

theorem loaderFile_eq_factory_iff :
    options.loaderFile table = Plan.factoryFileName options ↔
      options.isSeparate = true ∧ options.fileStem table = "loader_factory" := by
  unfold loaderFile Plan.factoryFileName
  split
  · next hseparate =>
    have hfactory : "/loader_factory.go" = "/" ++ ("loader_factory" ++ ".go") := by decide
    rw [hfactory, ← String.append_assoc, ← String.append_assoc, String.append_left_inj,
      String.append_right_inj]
    exact ⟨fun h => ⟨hseparate, h⟩, fun h => h.2⟩
  · next hbeside =>
    exact ⟨fun h => absurd h (stem_ne_factory _), fun h => absurd h.1 hbeside⟩

end Options

/-- A loader whose struct has its key is given its file. -/
theorem Plan.exists_loaderFile? (options : Options) {loader : Loader}
    (h : loader.struct.isLoadable = true) :
    ∃ data, loaderFile? options loader = some ⟨loaderFileName options loader.struct, data⟩ := by
  obtain ⟨key, hkey⟩ := Option.isSome_iff_exists.1 h
  have hprimary : loader.primaryKey? = some key := hkey
  simp only [loaderFile?, hprimary, Option.bind_eq_bind, Option.bind_some, Option.pure_def]
  exact ⟨_, rfl⟩

namespace Request

variable {request : Request} {options : Options} {resolution : Resolution}

theorem typeName_of_mem_structs {types : CustomTypes} {structs : List Struct} {struct : Struct}
    (h : request.structs options types = .ok structs) (hstruct : struct ∈ structs) :
    struct.typeName = options.structName struct.table.schema struct.table.name := by
  obtain ⟨engine, placed, -, rfl⟩ := exists_of_mem_structs h hstruct
  exact options.structType_name placed.schema placed.table.rel.name

theorem exists_loaderFile? (h : request.resolve options = .ok resolution) {loader : Loader}
    (hloader : loader ∈ resolution.loaders) :
    ∃ data, Plan.loaderFile? options loader
      = some ⟨options.loaderFile loader.struct.table, data⟩ := by
  have hname : Plan.loaderFileName options loader.struct =
      options.loaderFile loader.struct.table := by
    unfold Plan.loaderFileName Options.loaderFile Options.fileStem
    rw [typeName_of_mem_structs (resolve_eq_ok.1 h).1 (struct_of_mem_loaders h hloader).1]
  rw [← hname]
  exact Plan.exists_loaderFile? options (isLoadable_of_mem_loaders h hloader)

/-- The names of the planned files: one for each table with a loader, and that of the factory where
there is a loader. -/
theorem fileNames_eq (h : request.resolve options = .ok resolution) :
    (Plan.ofResolution resolution options).fileNames =
      resolution.loadedTables.map options.loaderFile ++
        if resolution.loaders.isEmpty then [] else [Plan.factoryFileName options] := by
  have hnames : (resolution.loaders.filterMap (Plan.loaderFile? options)).map PlannedFile.name =
      resolution.loadedTables.map options.loaderFile := by
    rw [List.map_filterMap, Resolution.loadedTables, List.map_map,
      List.filterMap_eq_map_iff_forall_eq_some]
    intro loader hloader
    obtain ⟨data, hfile⟩ := exists_loaderFile? h hloader
    rw [hfile, Option.map_some, Function.comp_apply]
  have hempty : (resolution.loaders.filterMap (Plan.loaderFile? options)).isEmpty =
      resolution.loaders.isEmpty := by
    have hempty := congrArg List.isEmpty hnames
    rwa [List.isEmpty_map, List.isEmpty_map, Resolution.loadedTables, List.isEmpty_map] at hempty
  simp only [Plan.fileNames, Plan.ofResolution, hnames, hempty]
  split
  · rw [Option.map_none, Option.toList_none]
  · rw [Option.map_some, Option.toList_some, Plan.factoryFile]

theorem nodup_fileNames_iff (hcatalog : (request.catalog.placedTables.map PlacedTable.ident).Nodup)
    (h : request.resolve options = .ok resolution) :
    (Plan.ofResolution resolution options).fileNames.Nodup ↔
      (∀ table ∈ resolution.loadedTables, ∀ other ∈ resolution.loadedTables,
        options.fileStem table = options.fileStem other → table = other) ∧
      (options.isSeparate = true →
        ∀ table ∈ resolution.loadedTables, options.fileStem table ≠ "loader_factory") := by
  have hloaded : resolution.loadedTables.Nodup := (loadedTables_sublist h).nodup hcatalog
  have hloaders : (resolution.loadedTables.map options.loaderFile).Nodup ↔
      ∀ table ∈ resolution.loadedTables, ∀ other ∈ resolution.loadedTables,
        options.fileStem table = options.fileStem other → table = other := by
    simp only [List.nodup_map_iff_inj_on hloaded, Options.loaderFile_eq_iff]
  rw [fileNames_eq h, ← hloaders]
  split
  · next hnone =>
    have hnil : resolution.loadedTables = [] := by
      rw [Resolution.loadedTables, List.isEmpty_iff.1 hnone, List.map_nil]
    simp [hnil]
  · have hfactory : List.Disjoint (resolution.loadedTables.map options.loaderFile)
        [Plan.factoryFileName options] ↔ (options.isSeparate = true →
          ∀ table ∈ resolution.loadedTables, options.fileStem table ≠ "loader_factory") := by
      simp only [List.disjoint_singleton, List.mem_map, Options.loaderFile_eq_factory_iff]
      grind
    rw [List.nodup_append', hfactory]
    simp

end Request

theorem File.ofText_eq_ok {name text : String} {file : File} :
    ofText name text = .ok file ↔ Text.isAllBlank text = false ∧ file = ⟨name, text⟩ := by
  unfold ofText
  cases Text.isAllBlank text with
  | true => simp
  | false => simp [eq_comm]

theorem Plan.map_name_of_render {plan : Plan} {renderer : Renderer} {response : Response}
    (h : plan.render renderer = .ok response) : response.files.map File.name = plan.fileNames := by
  have hkeep : ∀ {α : Type} (render : α → Except RenderError String) (planned : PlannedFile α)
      (file : File), planned.render render = .ok file → file.name = planned.name := by
    intro α render planned file hfile
    obtain ⟨text, -, htext⟩ := bind_eq_ok.1 hfile
    obtain ⟨-, rfl⟩ := File.ofText_eq_ok.1 htext
    rfl
  simp only [Plan.render, bind_eq_ok] at h
  obtain ⟨loaders, hloaders, factory, hfactory, h⟩ := h
  cases h
  rw [List.map_append, map_eq_of_mapM_eq_ok (hkeep _) hloaders,
    map_eq_of_mapM_eq_ok (hkeep _) hfactory, fileNames, Option.toList_map]

theorem Response.file?_name {response : Response} (hnodup : (response.files.map File.name).Nodup)
    {file : File} (hfile : file ∈ response.files) : response.file? file.name = some file := by
  rw [file?, find?_key_eq_some hnodup]
  exact ⟨hfile, rfl⟩

/-- Which runs give files of different names. Every table with a loader has a file, and where there
is one there is the factory's. No two of these files share a name exactly when the structs of the
loaded tables differ in snake case and none of them takes the factory's name in a directory of
loaders. Then every file of a response is the one found by its name. -/
theorem files_apart {request : Request} {options : Options} {resolution : Resolution}
    (hcatalog : (request.catalog.placedTables.map PlacedTable.ident).Nodup)
    (hresolve : request.resolve options = .ok resolution) :
    (Plan.ofResolution resolution options).fileNames =
        resolution.loadedTables.map options.loaderFile ++
          (if resolution.loaders.isEmpty then [] else [Plan.factoryFileName options]) ∧
      ((Plan.ofResolution resolution options).fileNames.Nodup ↔
        (∀ table ∈ resolution.loadedTables, ∀ other ∈ resolution.loadedTables,
          options.fileStem table = options.fileStem other → table = other) ∧
        (options.isSeparate = true →
          ∀ table ∈ resolution.loadedTables, options.fileStem table ≠ "loader_factory")) ∧
      ∀ renderer response, resolution.generate options renderer = .ok response →
        response.files.map File.name = (Plan.ofResolution resolution options).fileNames ∧
        ((Plan.ofResolution resolution options).fileNames.Nodup →
          ∀ file ∈ response.files, response.file? file.name = some file) := by
  refine ⟨Request.fileNames_eq hresolve, Request.nodup_fileNames_iff hcatalog hresolve, ?_⟩
  intro renderer response hresponse
  have hnames := Plan.map_name_of_render hresponse
  exact ⟨hnames, fun hnodup file hfile => Response.file?_name (hnames ▸ hnodup) hfile⟩

/-- Two tables with a key each, both touched by queries. -/
def pairRequest (first second : String) : Request where
  settings := { engine := "sqlite" }
  catalog := {
    schemas := [{
      name := "public"
      tables := [first, second].map fun name =>
        { rel := { name := name }
          columns := [{ name := "id", notNull := true, type := some { name := "integer" } }] } }] }
  queries := [first, second].map fun name =>
    { name := name, insertIntoTable := some { name := name } }
  pluginOptions := Text.bytesOf "\x7b\"package\": \"db\"\x7d"

theorem ofRequest_pair (first second : String) :
    Options.ofRequest (pairRequest first second) = .ok plainOptions := by
  have hdocument : Options.ofRequest (pairRequest first second) =
      Options.ofRequest (pairRequest "" "") := rfl
  rw [hdocument, ← toOption_eq_some]
  decide +kernel

/-- A table in the singular and one in the plural share a file name. -/
theorem files_collide_on_singular :
    ((pairRequest "author" "authors").catalog.placedTables.map PlacedTable.ident).Nodup ∧
    ∃ options resolution, Options.ofRequest (pairRequest "author" "authors") = .ok options ∧
      (pairRequest "author" "authors").resolve options = .ok resolution ∧
      (Plan.ofResolution resolution options).fileNames =
        ["author_loader.go", "author_loader.go", "loader_factory.go"] ∧
      ¬ (Plan.ofResolution resolution options).fileNames.Nodup := by
  have hrun : ((pairRequest "author" "authors").resolve plainOptions).toOption.map
      (fun resolution => (Plan.ofResolution resolution plainOptions).fileNames) =
      some ["author_loader.go", "author_loader.go", "loader_factory.go"] := by
    decide +kernel
  obtain ⟨resolution, hresolution, hnames⟩ := Option.map_eq_some_iff.1 hrun
  refine ⟨by decide, plainOptions, resolution, ofRequest_pair _ _, toOption_eq_some.1 hresolution,
    hnames, ?_⟩
  rw [hnames]
  decide

theorem files_apart_on_pair :
    ((pairRequest "authors" "books").catalog.placedTables.map PlacedTable.ident).Nodup ∧
    ∃ options resolution, Options.ofRequest (pairRequest "authors" "books") = .ok options ∧
      (pairRequest "authors" "books").resolve options = .ok resolution ∧
      (Plan.ofResolution resolution options).fileNames =
        ["author_loader.go", "book_loader.go", "loader_factory.go"] ∧
      ∀ renderer response, resolution.generate options renderer = .ok response →
        ∀ file ∈ response.files, response.file? file.name = some file := by
  have hcatalog :
      ((pairRequest "authors" "books").catalog.placedTables.map PlacedTable.ident).Nodup := by
    decide
  have hrun : ((pairRequest "authors" "books").resolve plainOptions).toOption.map
      (fun resolution => (Plan.ofResolution resolution plainOptions).fileNames) =
      some ["author_loader.go", "book_loader.go", "loader_factory.go"] := by
    decide +kernel
  obtain ⟨resolution, hresolution, hnames⟩ := Option.map_eq_some_iff.1 hrun
  have hresolve := toOption_eq_some.1 hresolution
  obtain ⟨-, -, hfiles⟩ := files_apart hcatalog hresolve
  have hnodup : (Plan.ofResolution resolution plainOptions).fileNames.Nodup := by
    rw [hnames]
    decide
  exact ⟨hcatalog, plainOptions, resolution, ofRequest_pair _ _, hresolve, hnames,
    fun renderer response hresponse => (hfiles renderer response hresponse).2 hnodup⟩

end LoaderGen

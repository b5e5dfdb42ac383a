import LoaderGen.Plan.Basic
import LoaderGen.Proofs.Loaders
import LoaderGen.Proofs.Plan.ImportSet

/-!
# What a loader's file imports

A loader's file names the type of its key and that of its struct, and asks for their imports after
those that every loader has. A path is imported as it was first asked for, so an import of a type is
in the file unless its path was asked for under another local name before. The import of the struct
is asked for only where the structs are in another package than the loaders.
-/

namespace LoaderGen

namespace ImportSet

theorem addImport_eq_foldl (set : ImportSet) (imp : Option Import) :
    set.addImport imp = imp.toList.foldl push set := by
  cases imp with
  | none => rfl
  | some imp => rfl

end ImportSet

namespace Plan

variable {options : Options} {loader : Loader} {key : Field} {imp : Import}

/-- The paths that every loader's file imports, without a local name. -/
def commonPaths (options : Options) : List String :=
  [options.driver.importPath, contextPath, dataloaderPath]

def cacheImports (policy : CachePolicy) : List Import :=
  if policy.isLru then [{ path := timePath }, { path := cachePath, localName := some cacheAlias }]
  else []

/-- What a loader's file asks for before the import of the struct. -/
def earlyImports (options : Options) (loader : Loader) (key : Field) : List Import :=
  (commonPaths options).map ({ path := · }) ++ key.type.source.toList ++ cacheImports loader.cache

def structImports (options : Options) (loader : Loader) : List Import :=
  if options.isSeparate then loader.struct.type.source.toList else []

theorem loaderImports_eq_foldl (options : Options) (loader : Loader) (key : Field) :
    loaderImports options loader key =
      (earlyImports options loader key ++ structImports options loader).foldl ImportSet.push ∅ := by
  simp only [loaderImports, earlyImports, structImports, cacheImports, commonPaths,
    ImportSet.addImport_eq_foldl, List.foldl_append]
  split <;> split <;> rfl

/-- An import is in the file when it is the first asked for under its path. -/
theorem mem_loaderImports :
    imp ∈ (loaderImports options loader key).toList ↔
      ((earlyImports options loader key).find? (·.path == imp.path)).or
        ((structImports options loader).find? (·.path == imp.path)) = some imp := by
  rw [ImportSet.mem_toList, loaderImports_eq_foldl, ImportSet.find?_foldl_push,
    ImportSet.find?_empty, Option.none_or, List.find?_append]

theorem path_mem_loaderImports
    (h : imp ∈ earlyImports options loader key ++ structImports options loader) :
    imp.path ∈ (loaderImports options loader key).toList.map Import.path := by
  rw [ImportSet.mem_paths_toList, loaderImports_eq_foldl, ImportSet.find?_foldl_push,
    ImportSet.find?_empty, Option.none_or, List.find?_isSome]
  exact ⟨imp, h, beq_self_eq_true imp.path⟩

theorem find?_unnamed (paths : List String) (path : String) :
    (paths.map ({ path := · } : String → Import)).find? (·.path == path) =
      if path ∈ paths then some { path := path } else none := by
  induction paths with
  | nil => simp
  | cons first rest ih =>
      rw [List.map_cons]
      by_cases hfirst : first = path
      · simp [hfirst]
      · rw [List.find?_cons_of_neg (by simpa using hfirst), ih]
        simp [Ne.symm hfirst]

theorem eq_iff_of_path_eq {other : Import} (h : other.path = imp.path)
    (hplain : imp.localName = none) : other = imp ↔ other.localName = none := by
  obtain ⟨path, localName⟩ := imp
  obtain ⟨otherPath, otherName⟩ := other
  simp_all

theorem unnamed_eq_iff : ({ path := imp.path } : Import) = imp ↔ imp.localName = none := by
  obtain ⟨path, localName⟩ := imp
  simp [eq_comm]

theorem named_ne {name : String} (hplain : imp.localName = none) :
    ({ path := imp.path, localName := some name } : Import) ≠ imp := by
  intro heq
  rw [← heq] at hplain
  cases hplain

theorem mem_loaderImports_of_common (h : imp.path ∈ commonPaths options) :
    imp ∈ (loaderImports options loader key).toList ↔ imp.localName = none := by
  rw [mem_loaderImports, earlyImports, List.append_assoc, List.find?_append, find?_unnamed, if_pos h,
    Option.some_or, Option.some_or, Option.some_inj, unnamed_eq_iff]

theorem mem_loaderImports_of_not_common (h : imp.path ∉ commonPaths options) :
    imp ∈ (loaderImports options loader key).toList ↔
      ((key.type.source.toList.find? (·.path == imp.path)).or
        ((cacheImports loader.cache).find? (·.path == imp.path))).or
          ((structImports options loader).find? (·.path == imp.path)) = some imp := by
  rw [mem_loaderImports, earlyImports, List.append_assoc, List.find?_append, find?_unnamed, if_neg h,
    Option.none_or, List.find?_append]

/-- The import of a type is asked for under the path, or nothing is. -/
theorem find?_source_cases (source : Option Import) (path : String) :
    (∃ other, source = some other ∧ other.path = path ∧
      source.toList.find? (·.path == path) = some other) ∨
    (∀ other, source = some other → other.path ≠ path) ∧
      source.toList.find? (·.path == path) = none := by
  cases source with
  | none => exact .inr ⟨fun other hother => (by cases hother), rfl⟩
  | some other =>
      by_cases hpath : other.path = path
      · exact .inl ⟨other, rfl, hpath, by simp [hpath]⟩
      · exact .inr ⟨fun _ hsame => Option.some_inj.1 hsame ▸ hpath, by simp [hpath]⟩

/-- The import of the key is in the file, unless it renames what every file imports. -/
theorem mem_imports_key (h : key.type.source = some imp) :
    imp ∈ (loaderImports options loader key).toList ↔
      (imp.path ∈ commonPaths options → imp.localName = none) := by
  by_cases hcommon : imp.path ∈ commonPaths options
  · rw [mem_loaderImports_of_common hcommon]
    exact (imp_iff_right hcommon).symm
  · rw [mem_loaderImports_of_not_common hcommon, h]
    simp [hcommon]

theorem find?_cacheImports (policy : CachePolicy) (path : String) :
    (cacheImports policy).find? (·.path == path) =
      if policy.isLru = true ∧ path = timePath then some { path := path }
      else if policy.isLru = true ∧ path = cachePath then
        some { path := path, localName := some cacheAlias }
      else none := by
  unfold cacheImports
  by_cases hlru : policy.isLru = true
  · by_cases htime : path = timePath
    · simp [hlru, htime]
    · by_cases hcache : path = cachePath
      · have hne : timePath ≠ cachePath := by decide
        simp [hlru, hcache, hne, hne.symm]
      · simp [hlru, htime, hcache, Ne.symm htime, Ne.symm hcache]
  · simp [hlru]

/-- An import without a name is the first asked for under its path by a bounded cache, if that one
asks for the time package by it. -/
theorem find?_cacheImports_eq_some (hplain : imp.localName = none) (policy : CachePolicy) :
    (cacheImports policy).find? (·.path == imp.path) = some imp ↔
      policy.isLru = true ∧ imp.path = timePath := by
  rw [find?_cacheImports]
  split
  · next htime => exact iff_of_true (congrArg some (unnamed_eq_iff.2 hplain)) htime
  · next htime =>
    refine iff_of_false (fun heq => ?_) htime
    split at heq
    · exact named_ne hplain (Option.some_inj.1 heq)
    · cases heq

/-- An import without a name that comes after those of the cache is held, if they do not name its
path. -/
theorem find?_cacheImports_or (hplain : imp.localName = none) (policy : CachePolicy) :
    ((cacheImports policy).find? (·.path == imp.path)).or (some imp) = some imp ↔
      (policy.isLru = true → imp.path ≠ cachePath) := by
  rw [find?_cacheImports]
  split
  · next htime =>
    have hne : imp.path ≠ cachePath := htime.2 ▸ (by decide)
    rw [Option.some_or]
    exact iff_of_true (congrArg some (unnamed_eq_iff.2 hplain)) fun _ => hne
  · split
    · next hcache =>
      rw [Option.some_or]
      refine iff_of_false (fun heq => named_ne hplain (Option.some_inj.1 heq)) fun hnot => ?_
      exact hnot hcache.1 hcache.2
    · next hcache =>
      rw [Option.none_or]
      exact iff_of_true rfl fun hlru hpath => hcache ⟨hlru, hpath⟩

/-- Beside structs of another package the import of the struct is in the file, unless its path was
asked for under a name before. -/
theorem mem_imports_struct_separate (h : loader.struct.type.source = some imp)
    (hplain : imp.localName = none) (hseparate : options.isSeparate = true) :
    imp ∈ (loaderImports options loader key).toList ↔
      imp.path ∈ commonPaths options ∨
        (∀ other, key.type.source = some other → other.path = imp.path → other.localName = none) ∧
        (loader.cache.isLru = true → imp.path = cachePath → key.type.source = some imp) := by
  by_cases hcommon : imp.path ∈ commonPaths options
  · rw [mem_loaderImports_of_common hcommon]
    exact iff_of_true hplain (.inl hcommon)
  · have hstruct : (structImports options loader).find? (·.path == imp.path) = some imp := by
      rw [structImports, if_pos hseparate, h]
      simp
    rw [mem_loaderImports_of_not_common hcommon, hstruct, or_iff_right hcommon]
    -- The key's import comes first: it decides where it has the path, else the cache's do.
    obtain ⟨other, hkey, hpath, hfirst⟩ | ⟨hnone, hfirst⟩ :=
      find?_source_cases key.type.source imp.path
    · rw [hfirst, Option.some_or, Option.some_or, Option.some_inj, hkey]
      constructor
      · rintro rfl
        exact ⟨fun _ hsame _ => Option.some_inj.1 hsame ▸ hplain, fun _ _ => rfl⟩
      · intro hnamed
        exact (eq_iff_of_path_eq hpath hplain).2 (hnamed.1 other rfl hpath)
    · rw [hfirst, Option.none_or, find?_cacheImports_or hplain]
      constructor
      · intro hcache
        exact ⟨fun other hother hpath => absurd hpath (hnone other hother),
          fun hlru hpath => absurd hpath (hcache hlru)⟩
      · intro hnamed hlru hpath
        exact hnone imp (hnamed.2 hlru hpath) rfl

/-- Where the packages have one name, a plain import is in the file only as another source asks for
it. -/
theorem mem_imports_plain_beside (hplain : imp.localName = none)
    (hbeside : options.isSeparate = false) :
    imp ∈ (loaderImports options loader key).toList ↔
      imp.path ∈ commonPaths options ∨ key.type.source = some imp ∨
        loader.cache.isLru = true ∧ imp.path = timePath ∧
          ∀ other, key.type.source = some other → other.path ≠ timePath := by
  by_cases hcommon : imp.path ∈ commonPaths options
  · rw [mem_loaderImports_of_common hcommon]
    exact iff_of_true hplain (.inl hcommon)
  · have hstruct : structImports options loader = [] := by
      rw [structImports, if_neg (by simp [hbeside])]
    rw [mem_loaderImports_of_not_common hcommon, hstruct, List.find?_nil, Option.or_none,
      or_iff_right hcommon]
    obtain ⟨other, hkey, hpath, hfirst⟩ | ⟨hnone, hfirst⟩ :=
      find?_source_cases key.type.source imp.path
    · rw [hfirst, Option.some_or, hkey, or_iff_left]
      rintro ⟨-, htime, hother⟩
      exact hother other rfl (hpath.trans htime)
    · rw [hfirst, Option.none_or, find?_cacheImports_eq_some hplain,
        or_iff_right (fun hkey => hnone imp hkey rfl)]
      exact and_congr_right fun _ => ⟨fun htime => ⟨htime, htime ▸ hnone⟩, fun htime => htime.1⟩

theorem loaderFile?_eq_some {file : PlannedFile LoaderData}
    (h : loaderFile? options loader = some file) :
    ∃ key, loader.primaryKey? = some key ∧ file.data.structType = loader.struct.type.toText ∧
      file.data.primaryKey.fieldType = key.type.toText ∧
      file.data.imports = (loaderImports options loader key).toList := by
  simp only [loaderFile?, Option.bind_eq_bind, Option.bind_eq_some_iff, Option.pure_def,
    Option.some_inj] at h
  obtain ⟨key, hkey, rfl⟩ := h
  exact ⟨key, hkey, rfl, rfl, rfl⟩

end Plan

theorem Request.localName_of_mem_loaders {request : Request} {options : Options}
    {resolution : Resolution} (h : request.resolve options = .ok resolution) {loader : Loader}
    (hloader : loader ∈ resolution.loaders) {imp : Import}
    (himp : loader.struct.type.source = some imp) : imp.localName = none := by
  obtain ⟨engine, placed, -, hstruct⟩ :=
    exists_of_mem_structs (resolve_eq_ok.1 h).1 (struct_of_mem_loaders h hloader).1
  rw [← hstruct] at himp
  change (options.structType placed.schema placed.table.rel.name).source = some imp at himp
  unfold Options.structType at himp
  split at himp
  · cases himp
    rfl
  · cases himp

/-- What a loader's file imports for the types that it names. The import of the key is there, unless
it renames what every such file imports. Beside structs of another package the import of the struct
is there, unless its path was asked for under a name before; otherwise it is there only as another
source asks for it. -/
theorem imports_of_types {request : Request} {options : Options} {resolution : Resolution}
    (hresolve : request.resolve options = .ok resolution) {file : PlannedFile LoaderData}
    (hfile : file ∈ (Plan.ofResolution resolution options).loaders) :
    ∃ loader ∈ resolution.loaders, ∃ key, loader.primaryKey? = some key ∧
      file.data.structType = loader.struct.type.toText ∧
      file.data.primaryKey.fieldType = key.type.toText ∧
      (file.data.imports.map Import.path).Nodup ∧
      (∀ imp, key.type.source = some imp →
        imp.path ∈ file.data.imports.map Import.path ∧
        (imp ∈ file.data.imports ↔
          (imp.path ∈ Plan.commonPaths options → imp.localName = none))) ∧
      (∀ imp, loader.struct.type.source = some imp → options.isSeparate = true →
        imp.path ∈ file.data.imports.map Import.path ∧
        (imp ∈ file.data.imports ↔
          imp.path ∈ Plan.commonPaths options ∨
            (∀ other, key.type.source = some other → other.path = imp.path →
              other.localName = none) ∧
            (loader.cache.isLru = true → imp.path = cachePath → key.type.source = some imp))) ∧
      (∀ imp, loader.struct.type.source = some imp → options.isSeparate = false →
        (imp ∈ file.data.imports ↔
          imp.path ∈ Plan.commonPaths options ∨ key.type.source = some imp ∨
            loader.cache.isLru = true ∧ imp.path = timePath ∧
              ∀ other, key.type.source = some other → other.path ≠ timePath)) := by
  obtain ⟨loader, hloader, hplanned⟩ := List.mem_filterMap.1 hfile
  obtain ⟨key, hkey, hstructText, hkeyText, himports⟩ := Plan.loaderFile?_eq_some hplanned
  rw [himports]
  refine ⟨loader, hloader, key, hkey, hstructText, hkeyText, ImportSet.nodup_paths_toList _,
    ?_, ?_, ?_⟩
  · intro imp hsource
    have hasked : imp ∈ Plan.earlyImports options loader key := by
      simp [Plan.earlyImports, hsource]
    exact ⟨Plan.path_mem_loaderImports (List.mem_append_left _ hasked),
      Plan.mem_imports_key hsource⟩
  · intro imp hsource hseparate
    have hplain := Request.localName_of_mem_loaders hresolve hloader hsource
    have hasked : imp ∈ Plan.structImports options loader := by
      simp [Plan.structImports, hseparate, hsource]
    exact ⟨Plan.path_mem_loaderImports (List.mem_append_right _ hasked),
      Plan.mem_imports_struct_separate hsource hplain hseparate⟩
  · intro imp hsource hbeside
    have hplain := Request.localName_of_mem_loaders hresolve hloader hsource
    exact Plan.mem_imports_plain_beside hplain hbeside

/-- A table with a key of integers, under the options of a document. -/
def keyedRequest (document : String) : Request where
  settings := { engine := "sqlite" }
  catalog := {
    schemas := [{
      name := "public"
      tables := [{
        rel := { name := "authors" }
        columns := [{ name := "id", notNull := true, type := some { name := "integer" } }] }] }] }
  queries := [{ name := "add", insertIntoTable := some { name := "authors" } }]
  pluginOptions := Text.bytesOf document

/-- Keys have a type of the context package, under another name than its own. -/
def contextDocument : String :=
  "\x7b\"package\": \"db\", \"overrides\": [\x7b\"db_type\": \"integer\", \"go_type\": " ++
    "\x7b\"import\": \"context\", \"package\": \"ctx\", \"type\": \"Context\"\x7d\x7d]\x7d"

def contextOptions : Options :=
  { plainOptions with
    overrides := [{
      rule := { goType := .parts "context" "ctx" "Context" false false, dbType := "integer" }
      matcher := none }] }

/-- The structs are in a package with the name of the loaders' one. -/
def sameNameDocument : String :=
  "\x7b\"package\": \"model\", \"model_import\": \"github.com/acme/app/model\"\x7d"

def sameNameOptions : Options :=
  { plainOptions with package := "model", modelImport := "github.com/acme/app/model" }

/-- A key named by a second name of a package, and a struct whose package has the loaders' name, are
written in files that do not have their imports. -/
theorem types_without_imports :
    (∃ options resolution,
      Options.ofRequest (keyedRequest contextDocument) = .ok options ∧
      (keyedRequest contextDocument).resolve options = .ok resolution ∧
      ∃ file ∈ (Plan.ofResolution resolution options).loaders, ∃ loader ∈ resolution.loaders,
        ∃ key, loader.primaryKey? = some key ∧ ∃ imp, key.type.source = some imp ∧
          file.data.primaryKey.fieldType = key.type.toText ∧ imp ∉ file.data.imports) ∧
    ∃ options resolution,
      Options.ofRequest (keyedRequest sameNameDocument) = .ok options ∧
      (keyedRequest sameNameDocument).resolve options = .ok resolution ∧
      ∃ file ∈ (Plan.ofResolution resolution options).loaders, ∃ loader ∈ resolution.loaders,
        ∃ imp, loader.struct.type.source = some imp ∧
          file.data.structType = loader.struct.type.toText ∧ imp ∉ file.data.imports := by
  constructor
  · have hoptions : (Options.ofRequest (keyedRequest contextDocument)).toOption =
        some contextOptions := by
      decide +kernel
    have hrun : (((keyedRequest contextDocument).resolve contextOptions).toOption.any
        fun resolution => (Plan.ofResolution resolution contextOptions).loaders.any fun file =>
          resolution.loaders.any fun loader => loader.primaryKey?.any fun key =>
            key.type.source.any fun imp => decide
              (file.data.primaryKey.fieldType = key.type.toText ∧ imp ∉ file.data.imports)) =
        true := by
      decide +kernel
    simp only [Option.any_eq_true, List.any_eq_true, decide_eq_true_eq, toOption_eq_some] at hrun
    obtain ⟨resolution, hresolution, hfile⟩ := hrun
    exact ⟨contextOptions, resolution, toOption_eq_some.1 hoptions, hresolution, hfile⟩
  · have hoptions : (Options.ofRequest (keyedRequest sameNameDocument)).toOption =
        some sameNameOptions := by
      decide +kernel
    have hrun : (((keyedRequest sameNameDocument).resolve sameNameOptions).toOption.any
        fun resolution => (Plan.ofResolution resolution sameNameOptions).loaders.any fun file =>
          resolution.loaders.any fun loader => loader.struct.type.source.any fun imp => decide
            (file.data.structType = loader.struct.type.toText ∧ imp ∉ file.data.imports)) =
        true := by
      decide +kernel
    simp only [Option.any_eq_true, List.any_eq_true, decide_eq_true_eq, toOption_eq_some] at hrun
    obtain ⟨resolution, hresolution, hfile⟩ := hrun
    exact ⟨sameNameOptions, resolution, toOption_eq_some.1 hoptions, hresolution, hfile⟩

/-- Keys have a type of another package, and so have the structs. -/
def identifierDocument : String :=
  "\x7b\"package\": \"db\", \"model_import\": \"github.com/acme/app/model\", \"overrides\": " ++
    "[\x7b\"db_type\": \"integer\", \"go_type\": \"github.com/google/uuid.UUID\"\x7d]\x7d"

def identifierOptions : Options :=
  { plainOptions with
    modelImport := "github.com/acme/app/model"
    overrides := [{
      rule := { goType := .text "github.com/google/uuid.UUID", dbType := "integer" }
      matcher := none }] }

theorem types_with_imports :
    ∃ options resolution,
      Options.ofRequest (keyedRequest identifierDocument) = .ok options ∧
      (keyedRequest identifierDocument).resolve options = .ok resolution ∧
      ∃ file ∈ (Plan.ofResolution resolution options).loaders,
        { path := "github.com/google/uuid" } ∈ file.data.imports ∧
        { path := "github.com/acme/app/model" } ∈ file.data.imports := by
  have hoptions : (Options.ofRequest (keyedRequest identifierDocument)).toOption =
      some identifierOptions := by
    decide +kernel
  have hrun : (((keyedRequest identifierDocument).resolve identifierOptions).toOption.any
      fun resolution => !(Plan.ofResolution resolution identifierOptions).loaders.isEmpty &&
        resolution.loaders.all fun loader => decide
          (loader.struct.type.source = some { path := "github.com/acme/app/model" } ∧
            loader.primaryKey?.map (·.type.source) =
              some (some { path := "github.com/google/uuid" }) ∧
            loader.cache.isLru = false)) = true := by
    decide +kernel
  simp only [Option.any_eq_true, Bool.and_eq_true, List.all_eq_true, decide_eq_true_eq,
    toOption_eq_some, Bool.not_eq_true', List.isEmpty_eq_false_iff_exists_mem] at hrun
  obtain ⟨resolution, hresolution, ⟨file, hfile⟩, hloaders⟩ := hrun
  obtain ⟨loader, hloader, key, hkey, -, -, -, hkeyImport, hstructImport, -⟩ :=
    imports_of_types hresolution hfile
  obtain ⟨hstruct, hsource, hcache⟩ := hloaders loader hloader
  rw [hkey, Option.map_some, Option.some_inj] at hsource
  refine ⟨identifierOptions, resolution, toOption_eq_some.1 hoptions, hresolution, file, hfile,
    ?_, ?_⟩
  · exact (hkeyImport _ hsource).2.2 fun _ => rfl
  · refine (hstructImport _ hstruct (by decide)).2.2 (.inr ⟨?_, ?_⟩)
    · intro other hother _
      rw [hsource, Option.some_inj] at hother
      rw [← hother]
    · intro hlru
      rw [hcache] at hlru
      cases hlru

end LoaderGen

import LoaderGen.Model.Build

/-!
# Loaders

A loader is made for each struct that has a single primary key and is not excluded. The first cache
entry for it that is not inert gives its cache.
-/

namespace LoaderGen

/-- A struct with the loader to be generated for it. -/
structure Loader where
  struct : Struct
  name : String
  cache : CachePolicy
  deriving Repr

namespace Loader

def primaryKey? (loader : Loader) : Option Field := loader.struct.primaryKey?

/-- The policy of the first entry that is for the table or the loader and is not inert. -/
def assignPolicy (cache : List CacheEntry) (table loaderName : String) :
    Except OptionsError CachePolicy :=
  match cache with
  | [] => .ok .noCache
  | entry :: rest =>
    if entry.targets table loaderName then
      match entry.policy with
      | .error e => .error e
      | .ok (some policy) => .ok policy
      | .ok none => assignPolicy rest table loaderName
    else assignPolicy rest table loaderName

/-- The struct gets a loader. -/
def isWanted (exclude : List String) (struct : Struct) : Bool :=
  !exclude.contains struct.fullTableName && struct.isLoadable

/-- The loader of a struct. -/
def ofStruct (cache : List CacheEntry) (struct : Struct) : Except OptionsError Loader := do
  return ⟨struct, struct.loaderName, ← assignPolicy cache struct.fullTableName struct.loaderName⟩

/-- The loaders of those structs that get one, in order. -/
def assign (structs : List Struct) (cache : List CacheEntry) (exclude : List String) :
    Except OptionsError (List Loader) :=
  (structs.filter (isWanted exclude)).mapM (ofStruct cache)

end Loader

/-- What a run resolves: every struct, and the loaders made for some. -/
structure Resolution where
  structs : List Struct
  loaders : List Loader
  deriving Repr

namespace Resolution

/-- The tables of the structs without a loader. -/
def droppedTables (resolution : Resolution) : List Identifier :=
  (resolution.structs.map Struct.table).filter fun table =>
    !resolution.loaders.any fun loader => loader.struct.table == table

end Resolution

/-- The structs and loaders of a request. -/
def Request.resolve (request : Request) (options : Options) : Except OptionsError Resolution := do
  let package := options.modelPath?.map fun _ => options.modelPackage
  let types := CustomTypes.build request.catalog.schemas options package
  let structs ← request.structs options types
  return ⟨structs, ← Loader.assign structs options.cache options.excludeTables⟩

end LoaderGen

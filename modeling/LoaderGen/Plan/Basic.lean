import LoaderGen.Plan.Imports
import LoaderGen.Resolution

/-!
# The plan of a run

The files to be written, with the data that their templates read: one for each loader, and one for
the factory that makes them all. Where structs are in a package of their own, the files of the
loaders go to a directory named for the loaders' package.
-/

namespace LoaderGen

structure PrimaryKeyData where
  columnName : String
  fieldName : String
  fieldType : String
  deriving DecidableEq, Repr

/-- What the template of a loader reads. -/
structure LoaderData where
  package : String
  loaderName : String
  loaderVar : String
  /-- The struct's type as the loader's package writes it. -/
  structType : String
  table : String
  columns : List String
  primaryKey : PrimaryKeyData
  cache : CachePolicy
  imports : List Import
  deriving DecidableEq, Repr

structure FactoryEntry where
  loaderName : String
  loaderVar : String
  structType : String
  deriving DecidableEq, Repr

structure FactoryData where
  package : String
  modelPackage : String
  loaders : List FactoryEntry
  imports : List Import
  deriving DecidableEq, Repr

/-- A file's name with the data that it is rendered from. -/
structure PlannedFile (α : Type) where
  name : String
  data : α
  deriving DecidableEq, Repr

structure Plan where
  loaders : List (PlannedFile LoaderData)
  factory : Option (PlannedFile FactoryData)
  deriving DecidableEq, Repr

namespace Options

/-- The loaders are in another package than the structs. -/
def isSeparate (options : Options) : Bool := options.package != options.modelPackage

end Options

namespace Plan

def lowerFirst (name : String) : String :=
  match name.toList with
  | [] => ""
  | c :: rest => String.ofList (Text.lowerOf c ++ rest)

def loaderFileName (options : Options) (struct : Struct) : String :=
  let snake := Naming.restyle .snake struct.typeName
  if options.isSeparate then options.package ++ "/" ++ snake ++ ".go" else snake ++ "_loader.go"

def factoryFileName (options : Options) : String :=
  if options.isSeparate then options.package ++ "/loader_factory.go" else "loader_factory.go"

/-- What a loader's file imports: the driver, the packages of loaders, the key's type, those of a
bounded cache, and the structs' package if it is another one. -/
def loaderImports (options : Options) (loader : Loader) (key : Field) : ImportSet :=
  let common := (((({} : ImportSet).addDriver options.driver).add contextPath).add
    dataloaderPath).addImport key.type.source
  let cached :=
    if loader.cache.isLru then (common.add timePath).addAliased cachePath cacheAlias else common
  if options.isSeparate then cached.addImport loader.struct.type.source else cached

/-- The file of a loader, whose struct has a single primary key. -/
def loaderFile? (options : Options) (loader : Loader) : Option (PlannedFile LoaderData) := do
  let key ← loader.primaryKey?
  return {
    name := loaderFileName options loader.struct
    data := {
      package := options.package
      loaderName := loader.name
      loaderVar := lowerFirst loader.name
      structType := loader.struct.type.toText
      table := loader.struct.fullTableName
      columns := loader.struct.fields.map Field.dbName
      primaryKey := ⟨key.dbName, key.name, key.type.toText⟩
      cache := loader.cache
      imports := (loaderImports options loader key).toList } }

def factoryImports (options : Options) : ImportSet :=
  if options.isSeparate && !options.modelImport.isEmpty then
    ({} : ImportSet).add options.modelImport
  else {}

/-- The file of the factory for the loaders planned. -/
def factoryFile (options : Options) (loaders : List (PlannedFile LoaderData)) :
    PlannedFile FactoryData where
  name := factoryFileName options
  data := {
    package := options.package
    modelPackage := options.modelPackage
    loaders := loaders.map fun file =>
      ⟨file.data.loaderName, file.data.loaderVar, file.data.structType⟩
    imports := (factoryImports options).toList }

/-- The plan for a resolution: no factory where there is no loader. -/
def ofResolution (resolution : Resolution) (options : Options) : Plan :=
  let loaders := resolution.loaders.filterMap (loaderFile? options)
  { loaders := loaders
    factory := if loaders.isEmpty then none else some (factoryFile options loaders) }

/-- The names of the files, the factory's last. -/
def fileNames (plan : Plan) : List String :=
  plan.loaders.map PlannedFile.name ++ (plan.factory.map PlannedFile.name).toList

end Plan

end LoaderGen

import LoaderGen.Naming.Words
import LoaderGen.Options.Cache
import LoaderGen.Options.Engine
import LoaderGen.Options.Override
import LoaderGen.Options.Renames
import LoaderGen.Schema.Request
import LoaderGen.Value.Json

/-!
# Options

The options of a run: read from a document as a draft, joined with the options shared by all
plugins, and finalized. Finalizing settles the package and the default schema and checks every
override and cache entry, so that nothing in finalized options can fail later.
-/

namespace LoaderGen

/-- The options that are used as they are written. -/
structure Preferences where
  emitExactTableNames : Bool := false
  out : String := ""
  renames : Renames := ∅
  inflectionExcludeTableNames : List String := []
  sqlPackage : String := ""
  emitPointersForNullTypes : Bool := false
  emitDbTags : Bool := false
  emitJsonTags : Bool := false
  /-- The style of the names in JSON tags; without one they are the column names. -/
  jsonTagStyle : Option Naming.WordStyle := none
  /-- `table.column` entries that name primary keys. -/
  primaryKeysColumns : List String := []
  /-- `table.column` entries of columns left out. -/
  ignoreColumns : List String := []
  /-- The import path of the package that holds the structs; empty when the loaders are beside
  them. -/
  modelImport : String := ""
  cache : List CacheEntry := []
  /-- Full names of tables without a loader. -/
  excludeTables : List String := []
  deriving DecidableEq, Repr, Inhabited

/-- Options as written in a document. -/
structure OptionsDraft extends Preferences where
  package : String := ""
  defaultSchema : String := ""
  overrides : List OverrideRule := []
  initialisms : Option (List String) := none
  deriving DecidableEq, Repr, Inhabited

/-- Options shared by all plugins. -/
structure GlobalOptions where
  overrides : List OverrideRule := []
  renames : Renames := ∅
  deriving DecidableEq, Repr, Inhabited

structure Options extends Preferences where
  package : String
  defaultSchema : String
  defaultSchema_ne : defaultSchema ≠ ""
  overrides : List Override
  initialisms : List String
  deriving DecidableEq

namespace OptionsDraft

/-- The draft joined with the shared options: their overrides come first, their renames win. -/
def merge (draft : OptionsDraft) (shared : GlobalOptions) : OptionsDraft :=
  { draft with
    overrides := shared.overrides ++ draft.overrides
    renames := draft.renames.merge shared.renames }

def outPackage (draft : OptionsDraft) : String :=
  String.ofList (Text.lastSegment '/' (Text.trimEnd '/' draft.out.toList))

/-- The package of the loaders: the one named, else the output directory's. -/
def settlePackage (draft : OptionsDraft) : Except OptionsError String :=
  if !draft.package.isEmpty then .ok draft.package
  else if draft.outPackage = "" ∨ draft.outPackage = "." then .error .missingPackage
  else .ok draft.outPackage

/-- The schema of names without one: the one named, else the catalog's, else the common one. -/
def settleSchema (draft : OptionsDraft) (catalogDefault : String) : String :=
  if !draft.defaultSchema.isEmpty then draft.defaultSchema
  else if !catalogDefault.isEmpty then catalogDefault
  else fallbackSchema

theorem settleSchema_ne (draft : OptionsDraft) (catalogDefault : String) :
    draft.settleSchema catalogDefault ≠ "" := by
  unfold settleSchema
  split
  · next named => simpa using named
  · split
    · next given => simpa using given
    · decide

def defaultInitialisms : List String := ["id"]

/-- Checked options: first the package, then every override, then every cache entry. -/
def finalize (draft : OptionsDraft) (catalogDefault : String) : Except OptionsError Options := do
  let package ← draft.settlePackage
  let defaultSchema := draft.settleSchema catalogDefault
  let overrides ← draft.overrides.mapM (Override.compile defaultSchema)
  let _ ← draft.cache.mapM CacheEntry.policy
  return {
    toPreferences := draft.toPreferences
    package := package
    defaultSchema := defaultSchema
    defaultSchema_ne := draft.settleSchema_ne catalogDefault
    overrides := overrides
    initialisms := draft.initialisms.getD defaultInitialisms }

end OptionsDraft

namespace Options

/-- The finalized options as a document would give them. -/
def toDraft (options : Options) : OptionsDraft where
  toPreferences := options.toPreferences
  package := options.package
  defaultSchema := options.defaultSchema
  overrides := options.overrides.map Override.rule
  initialisms := some options.initialisms

def driver (options : Options) : Driver := .ofSqlPackage options.sqlPackage

def initialismSet (options : Options) : List String :=
  options.initialisms.map fun s => String.ofList (Text.lower s.toList)

def modelPackage (options : Options) : String :=
  let segment := String.ofList (Text.lastSegment '/' options.modelImport.toList)
  if segment.isEmpty then options.package else segment

/-- The import path of the structs' package, if they are in one of their own. -/
def modelPath? (options : Options) : Option String :=
  if options.modelImport.isEmpty then none else some options.modelImport

/-- The driver is a pgx one, and null values are to be pointers. -/
def nullPointers (options : Options) : Bool :=
  options.driver.isPgx && options.emitPointersForNullTypes

end Options

end LoaderGen

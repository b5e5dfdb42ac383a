import LoaderGen.Duration
import LoaderGen.Glob.Reading
import LoaderGen.Text.Quoted

/-!
# Faults in the options

Everything that can be wrong with the options of a run. Each fault ends the run before any type is
resolved.
-/

namespace LoaderGen

inductive OptionsDocument where
  | plugin
  | global
  deriving DecidableEq, Repr

def OptionsDocument.name : OptionsDocument → String
  | plugin => "plugin"
  | global => "global"

inductive OptionsError where
  | cacheSize (target : String) (size : Int64)
  | cacheTtl (target ttl : String) (fault : Duration.Fault)
  | missingPackage
  | overridePattern (pattern : String) (fault : Glob.Fault)
  /-- A column specifier has neither two, three nor four parts. -/
  | overrideSpecifier (column : String)
  | overrideHasBothTargets (column dbType : String)
  | overrideHasNoTarget
  /-- The document cannot be read; what is wrong with it is not kept. -/
  | unreadableJson (document : OptionsDocument)
  | unreadableToml
  | unsupportedEngine (name : String)
  deriving DecidableEq, Repr

namespace OptionsError

def message : OptionsError → String
  | cacheSize target size => s!"cache entry for '{target}' must have a positive size, got {size}"
  | cacheTtl target ttl fault =>
    let reason := fault.message ttl
    s!"cache entry for '{target}' has an invalid ttl '{ttl}': {reason}"
  | missingPackage => "invalid options: missing package name"
  | overridePattern pattern fault =>
    let reason := fault.message pattern
    s!"override pattern '{pattern}' is invalid: {reason}"
  | overrideSpecifier column =>
    s!"override `column` specifier '{column}' is not the proper format, " ++
      "expected '[catalog.][schema.]tablename.colname'"
  | overrideHasBothTargets column dbType =>
    "Override specifying both `column` (" ++ Text.Quoted.encode column ++ ") and `db_type` (" ++
      Text.Quoted.encode dbType ++ ") is not valid."
  | overrideHasNoTarget => "Override must specify one of either `column` or `db_type`"
  | unreadableJson document => s!"unmarshalling {document.name} options"
  | unreadableToml => "parsing options file"
  | unsupportedEngine name => s!"unsupported sql engine '{name}'"

end OptionsError

end LoaderGen

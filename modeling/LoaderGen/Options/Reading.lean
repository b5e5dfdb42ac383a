import LoaderGen.Options.Basic
import LoaderGen.Value.Toml

/-!
# Reading options

Option documents are records whose keys are the names of the options, in JSON or in TOML. An empty
JSON document sets nothing.
-/

namespace LoaderGen

open Value

/-- The styles of JSON tags by their names. -/
def tagStyles : List (String × Option Naming.WordStyle) :=
  [("camel", some .camel), ("pascal", some .pascal), ("snake", some .snake), ("none", none)]

/-- A style by its name, which can also be the only key of a record without content. -/
def tagStyle? (format : Format) : Value → Option (Option Naming.WordStyle)
  | .text name => tagStyles.lookup name
  | .record [(name, content)] => do
    guard (format.isNoContent content)
    tagStyles.lookup name
  | _ => none

def Renames.ofValue? : Value → Option Renames
  | .record fields =>
    Renames.ofList <$> fields.mapM fun (name, v) => (text? v).map fun target => (name, target)
  | _ => none

def GlobalOptions.ofValue? (format : Format) (v : Value) : Option GlobalOptions := do
  let fields ← v.fields? format ["overrides", "rename"]
  return {
    overrides := ← fields.orElse "overrides" [] (listOf? (OverrideRule.ofValue? format))
    renames := ← fields.orElse "rename" ∅ Renames.ofValue? }

namespace OptionsDraft

def keys : List String := [
  "emit_exact_table_names", "package", "out", "overrides", "rename", "default_schema",
  "inflection_exclude_table_names", "initialisms", "sql_package", "emit_pointers_for_null_types",
  "emit_db_tags", "emit_json_tags", "json_tags_case_style", "primary_keys_columns",
  "ignore_columns", "model_import", "cache", "exclude_tables"]

def ofValue? (format : Format) (v : Value) : Option OptionsDraft := do
  let fields ← v.fields? format keys
  let flag (name : String) := fields.orElse name false bool?
  let word (name : String) := fields.orElse name "" text?
  let words (name : String) := fields.orElse name [] (listOf? text?)
  return {
    emitExactTableNames := ← flag "emit_exact_table_names"
    package := ← word "package"
    out := ← word "out"
    overrides := ← fields.orElse "overrides" [] (listOf? (OverrideRule.ofValue? format))
    renames := ← fields.orElse "rename" ∅ Renames.ofValue?
    defaultSchema := ← word "default_schema"
    inflectionExcludeTableNames := ← words "inflection_exclude_table_names"
    initialisms := ← fields.orElse "initialisms" none (optional? (listOf? text?))
    sqlPackage := ← word "sql_package"
    emitPointersForNullTypes := ← flag "emit_pointers_for_null_types"
    emitDbTags := ← flag "emit_db_tags"
    emitJsonTags := ← flag "emit_json_tags"
    jsonTagStyle := ← fields.orElse "json_tags_case_style" none (tagStyle? format)
    primaryKeysColumns := ← words "primary_keys_columns"
    ignoreColumns := ← words "ignore_columns"
    modelImport := ← word "model_import"
    cache := ← fields.orElse "cache" [] (listOf? (CacheEntry.ofValue? format))
    excludeTables := ← words "exclude_tables" }

end OptionsDraft

/-- Reads a document whose absence means the given value. -/
def readDocument {α : Type} (document : OptionsDocument) (absent : α) (read : Value → Option α)
    (bytes : List UInt8) : Except OptionsError α :=
  if bytes.isEmpty then .ok absent
  else
    match Json.read? bytes >>= read with
    | some a => .ok a
    | none => .error (.unreadableJson document)

namespace Options

/-- The options of a request, from its two documents. -/
def ofRequest (request : Request) : Except OptionsError Options := do
  let draft ← readDocument .plugin {} (OptionsDraft.ofValue? .json) request.pluginOptions
  let shared ← readDocument .global {} (GlobalOptions.ofValue? .json) request.globalOptions
  (draft.merge shared).finalize request.catalog.defaultSchema

def ofToml (source catalogDefault : String) : Except OptionsError Options :=
  match Toml.read? source >>= OptionsDraft.ofValue? .toml with
  | some draft => draft.finalize catalogDefault
  | none => .error .unreadableToml

end Options

end LoaderGen

import LoaderGen.Glob.Pattern
import LoaderGen.GoType.Spec
import LoaderGen.Options.Error
import LoaderGen.Schema.Column
import LoaderGen.Text.Split

/-!
# Overrides

An override replaces the type of the columns that it matches: those whose name and table match the
globs of its column specifier, or those of one declared type, nullability and sign.
-/

namespace LoaderGen

structure OverrideRule where
  goType : GoTypeSpec := default
  dbType : String := ""
  nullable : Bool := false
  unsigned : Bool := false
  column : String := ""
  deriving DecidableEq, Repr, Inhabited

structure ColumnMatcher where
  catalog : Option Pattern
  schema : Pattern
  table : Pattern
  column : Pattern
  deriving DecidableEq

/-- An override that has been checked. -/
structure Override where
  rule : OverrideRule
  /-- The globs, if the override has a column specifier. -/
  matcher : Option ColumnMatcher
  deriving DecidableEq

inductive OverrideKind where
  | column
  | dbType
  deriving DecidableEq, Repr

namespace OverrideRule

def ofValue? (format : Format) (v : Value) : Option OverrideRule := do
  let fields ← v.fields? format ["go_type", "db_type", "nullable", "unsigned", "column"]
  return {
    goType := ← fields.orElse "go_type" default GoTypeSpec.ofValue?
    dbType := ← fields.orElse "db_type" "" Value.text?
    nullable := ← fields.orElse "nullable" false Value.bool?
    unsigned := ← fields.orElse "unsigned" false Value.bool?
    column := ← fields.orElse "column" "" Value.text? }

end OverrideRule

/-- The pattern of a glob, its fault being one of the options. -/
def compilePattern (glob : String) : Except OptionsError Pattern :=
  (Pattern.compile glob).mapError (.overridePattern glob)

namespace ColumnMatcher

/-- The globs of `[catalog.][schema.]table.column`; without a schema the default one is meant. -/
def ofSpecifier (specifier defaultSchema : String) : Except OptionsError ColumnMatcher :=
  match (specifier.toList.splitOn '.').map String.ofList with
  | [table, column] => do
    let schema ← compilePattern defaultSchema
    return ⟨none, schema, ← compilePattern table, ← compilePattern column⟩
  | [schema, table, column] => do
    let schema ← compilePattern schema
    return ⟨none, schema, ← compilePattern table, ← compilePattern column⟩
  | [catalog, schema, table, column] => do
    let catalog ← compilePattern catalog
    let schema ← compilePattern schema
    return ⟨some catalog, schema, ← compilePattern table, ← compilePattern column⟩
  | _ => .error (.overrideSpecifier specifier)

/-- The table is one that the specifier means, an empty schema being read as the given one. -/
def matchesTable (matcher : ColumnMatcher) (table : Identifier) (defaultSchema : String) : Bool :=
  (matcher.catalog.all fun catalog => catalog.isMatch table.catalog) &&
    matcher.schema.isMatch (table.schemaOr defaultSchema) && matcher.table.isMatch table.name

end ColumnMatcher

namespace Override

/-- Checks that the override has one target, and reads its column specifier. -/
def compile (defaultSchema : String) (rule : OverrideRule) : Except OptionsError Override :=
  if !rule.column.isEmpty && !rule.dbType.isEmpty then
    .error (.overrideHasBothTargets rule.column rule.dbType)
  else if rule.column.isEmpty && rule.dbType.isEmpty then .error .overrideHasNoTarget
  else if rule.column.isEmpty then .ok ⟨rule, none⟩
  else do return ⟨rule, some (← ColumnMatcher.ofSpecifier rule.column defaultSchema)⟩

/-- The override of the columns that a specifier means. -/
def forColumn (column : String) (goType : GoTypeSpec) (defaultSchema : String) :
    Except OptionsError Override :=
  compile defaultSchema { goType := goType, column := column }

/-- The override of the columns of one declared type. -/
def forDbType (dbType : String) (nullable unsigned : Bool) (goType : GoTypeSpec) : Override :=
  ⟨{ goType := goType, dbType := dbType, nullable := nullable, unsigned := unsigned }, none⟩

def kind (override : Override) : OverrideKind :=
  if override.rule.column.isEmpty then .dbType else .column

/-- The override means columns of this table; never without a specifier or a table. -/
def matchesTable (override : Override) (table : Option Identifier) (defaultSchema : String) :
    Bool :=
  match override.matcher, table with
  | some matcher, some table => matcher.matchesTable table defaultSchema
  | _, _ => false

def matchesColumnName (override : Override) (name : String) : Bool :=
  override.matcher.any fun matcher => matcher.column.isMatch name

/-- The override's column specifier means this column. -/
def matchesColumn (override : Override) (column : Column) (defaultSchema : String) : Bool :=
  override.kind == .column && override.matchesColumnName column.matchName &&
    override.matchesTable column.table defaultSchema

/-- The override's declared type, nullability and sign are those of the column. -/
def matchesDeclaration (override : Override) (column : Column) : Bool :=
  override.kind == .dbType && override.rule.dbType == column.dataType &&
    override.rule.nullable != column.neverNull && override.rule.unsigned == column.unsigned

/-- The first override for a column: one by name before one by declared type. An override that names
no type is for none. -/
def firstFor? (overrides : List Override) (column : Column) (defaultSchema : String) :
    Option Override :=
  let candidates := overrides.filter fun override => !override.rule.goType.isEmpty
  (candidates.find? (·.matchesColumn column defaultSchema)).or
    (candidates.find? (·.matchesDeclaration column))

end Override

end LoaderGen

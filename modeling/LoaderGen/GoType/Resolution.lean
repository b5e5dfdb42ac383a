import LoaderGen.CustomType
import LoaderGen.GoType.MySql
import LoaderGen.GoType.Postgres
import LoaderGen.GoType.Sqlite

/-!
# The Go type of a column

The type of a column comes from the first override for it, else from the engine's map: its built-in
types, then the custom types. Slices for arrays and slice parameters are put around either.
-/

namespace LoaderGen

namespace Engine

def ofName (name : String) : Except OptionsError Engine :=
  match ofName? name with
  | some engine => .ok engine
  | none => .error (.unsupportedEngine name)

/-- What becomes of the column's type if it is built in. -/
def rule? (engine : Engine) (options : Options) (column : Column) : Option TypeRule :=
  match engine with
  | postgresql => Postgres.rule? options.driver column.dataType
  | mysql => MySql.rule? column.dataType column.length column.unsigned
  | sqlite => Sqlite.rule? column.dataType

def nullPointers (engine : Engine) (options : Options) : Bool :=
  match engine with
  | postgresql => options.nullPointers
  | mysql => false
  | sqlite => options.emitPointersForNullTypes

/-- The custom type that the column is declared with. -/
def customType? (engine : Engine) (options : Options) (types : CustomTypes) (column : Column) :
    Option CustomType :=
  match engine with
  | postgresql => column.type.bind fun type =>
    types.find? (type.schemaOr options.defaultSchema) type.name (!column.neverNull)
  | mysql => types.findByName? column.dataType (!column.neverNull)
  | sqlite => none

theorem mem_of_customType? {engine : Engine} {options : Options} {types : CustomTypes}
    {column : Column} {custom : CustomType}
    (h : engine.customType? options types column = some custom) : custom ∈ types := by
  cases engine with
  | postgresql =>
      obtain ⟨type, -, hfound⟩ := Option.bind_eq_some_iff.1 h
      exact List.mem_of_find?_eq_some hfound
  | mysql => exact List.mem_of_find?_eq_some h
  | sqlite => cases h

/-- The type of one value of the column, overrides and slices apart. -/
def mapType (engine : Engine) (options : Options) (types : CustomTypes) (column : Column) :
    GoType :=
  match engine.rule? options column with
  | some rule => rule.resolve column.neverNull (engine.nullPointers options)
  | none =>
    match engine.customType? options types column with
    | some custom => custom.goType
    | none => .named anyType

end Engine

/-- How many slices the column puts around its values: one for a slice parameter, else the
dimensions of an array. -/
def Column.sliceLevels (column : Column) : Nat :=
  if column.isSlice then 1
  else if column.isArray then max 1 column.arrayDims.toNat
  else 0

namespace Options

def overrideFor? (options : Options) (column : Column) : Option Override :=
  Override.firstFor? options.overrides column options.defaultSchema

/-- The type of a column, given the one that the engine maps it to. -/
def columnType (options : Options) (mapType : Column → GoType) (column : Column) : GoType :=
  let element :=
    match options.overrideFor? column with
    | some override => override.rule.goType.resolve
    | none => mapType column
  element.wrapSlice column.sliceLevels

end Options

end LoaderGen

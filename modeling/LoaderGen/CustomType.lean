import LoaderGen.Naming.Normalizer

/-!
# Custom types

The Go types of the enums and composite types that the catalog declares. Each stands there twice,
for values that can be null and for those that cannot.
-/

namespace LoaderGen

inductive CustomTypeKind where
  | enum
  | composite
  deriving DecidableEq, Repr

def CustomTypeKind.name : CustomTypeKind → String
  | enum => "enum"
  | composite => "composite"

structure CustomType where
  goType : GoType
  sqlName : String
  schema : String
  kind : CustomTypeKind
  nullable : Bool
  deriving DecidableEq, Repr

/-- The custom types of a run, in catalog order. -/
abbrev CustomTypes := List CustomType

namespace CustomTypes

/-- The first type of this schema, name and nullability. -/
def find? (types : CustomTypes) (schema sqlName : String) (nullable : Bool) : Option CustomType :=
  List.find? (fun t => t.schema == schema && t.sqlName == sqlName && t.nullable == nullable) types

/-- The first type of this name and nullability in any schema. -/
def findByName? (types : CustomTypes) (sqlName : String) (nullable : Bool) : Option CustomType :=
  List.find? (fun t => t.sqlName == sqlName && t.nullable == nullable) types

/-- The Go type of an enum; in a package of its own when one is given. -/
def enumType (options : Options) (package : Option String) (name : String) : GoType :=
  match package with
  | some package => (GoType.named name).within package options.modelPath?
  | none => .named name

/-- An enum without and with null. -/
def ofEnum (options : Options) (package : Option String) (schema : String) (enum : Enum) :
    CustomTypes :=
  let name := options.typeName schema enum.name
  [⟨enumType options package name, enum.name, schema, .enum, false⟩,
    ⟨enumType options package ("Null" ++ name), enum.name, schema, .enum, true⟩]

/-- The Go type of a composite value that can be null. -/
def nullableComposite (options : Options) : GoType :=
  .parse (if options.nullPointers then "*string" else "database/sql.NullString")

/-- A composite type, which is read as text, without and with null. -/
def ofComposite (options : Options) (schema : String) (type : CompositeType) : CustomTypes :=
  [⟨.parse "string", type.name, schema, .composite, false⟩,
    ⟨nullableComposite options, type.name, schema, .composite, true⟩]

def ofSchema (options : Options) (package : Option String) (schema : Schema) : CustomTypes :=
  schema.enums.flatMap (ofEnum options package schema.name) ++
    schema.compositeTypes.flatMap (ofComposite options schema.name)

/-- The custom types of all schemas but the reserved ones. -/
def build (schemas : List Schema) (options : Options) (package : Option String) : CustomTypes :=
  (schemas.filter (! isReservedSchema ·.name)).flatMap (ofSchema options package)

end CustomTypes

end LoaderGen

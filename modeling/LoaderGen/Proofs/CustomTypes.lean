import LoaderGen.CustomType
import LoaderGen.Proofs.Lookup
import Mathlib.Data.List.Forall2

/-!
# Custom types in pairs

Every enum and every composite type that the catalog declares gives two custom types side by side,
one for values that are never null and one for values that can be. They differ in nothing that a
search asks for besides, so two searches for the one name that ask for either find the two types of
one declaration, however often the name is declared.
-/

namespace LoaderGen

/-- An enum or a composite type as a schema declares it. -/
structure TypeDeclaration where
  schema : String
  kind : CustomTypeKind
  name : String
  deriving DecidableEq

/-- The declarations of a schema in order, those of enums first. -/
def Schema.typeDeclarations (schema : Schema) : List TypeDeclaration :=
  schema.enums.map (fun enum => ⟨schema.name, .enum, enum.name⟩) ++
    schema.compositeTypes.map fun type => ⟨schema.name, .composite, type.name⟩

/-- The declarations of all schemas but the reserved ones, in catalog order. -/
def typeDeclarations (schemas : List Schema) : List TypeDeclaration :=
  (schemas.filter (! isReservedSchema ·.name)).flatMap Schema.typeDeclarations

namespace TypeDeclaration

variable {declaration : TypeDeclaration} {options : Options} {package : Option String}

def IsNamed (schema name : String) (declaration : TypeDeclaration) : Prop :=
  declaration.schema = schema ∧ declaration.name = name

theorem isNamed_iff {schema name : String} :
    declaration.IsNamed schema name ↔
      (declaration.schema == schema && declaration.name == name) = true := by
  simp [IsNamed]

/-- The Go types of a declaration without and with null. -/
inductive GoTypes (options : Options) (package : Option String) (schema name : String) :
    CustomTypeKind → GoType → GoType → Prop where
  | enum {plain : GoType} (hname : plain.name = options.typeName schema name)
      (hpackage : plain.package = package)
      (hsource : plain.source = package.bind fun _ => options.modelPath?.map ({ path := · }))
      (hpointer : plain.pointer = false) (hslices : plain.sliceDims = 0) :
      GoTypes options package schema name .enum plain { plain with name := "Null" ++ plain.name }
  | pointer (hpgx : options.driver.isPgx = true)
      (hpointers : options.emitPointersForNullTypes = true) :
      GoTypes options package schema name .composite
        { name := "string" } { name := "string", pointer := true }
  | nullString (hplain : ¬ (options.driver.isPgx = true ∧
      options.emitPointersForNullTypes = true)) :
      GoTypes options package schema name .composite { name := "string" }
        { source := some { path := "database/sql" }, package := some "sql", name := "NullString" }

/-- The custom type is the declaration's for values of this nullability. -/
structure Gives (declaration : TypeDeclaration) (nullable : Bool) (custom : CustomType) : Prop where
  schema : custom.schema = declaration.schema
  sqlName : custom.sqlName = declaration.name
  kind : custom.kind = declaration.kind
  nullable : custom.nullable = nullable

/-- The two custom types are the declaration's, and so are their Go types. -/
structure GivesPair (declaration : TypeDeclaration) (options : Options) (package : Option String)
    (plain null : CustomType) : Prop where
  gives_plain : declaration.Gives false plain
  gives_null : declaration.Gives true null
  goTypes : GoTypes options package declaration.schema declaration.name declaration.kind
    plain.goType null.goType

/-- The custom type of the declaration for values of one nullability. -/
def custom (options : Options) (package : Option String) (declaration : TypeDeclaration)
    (nullable : Bool) : CustomType where
  goType :=
    match declaration.kind with
    | .enum =>
      let name := options.typeName declaration.schema declaration.name
      CustomTypes.enumType options package (if nullable then "Null" ++ name else name)
    | .composite => if nullable then CustomTypes.nullableComposite options else .parse "string"
  sqlName := declaration.name
  schema := declaration.schema
  kind := declaration.kind
  nullable := nullable

@[simp] theorem nullable_custom (nullable : Bool) :
    (declaration.custom options package nullable).nullable = nullable :=
  rfl

theorem goType_custom_of_enum (hkind : declaration.kind = .enum) (nullable : Bool) :
    (declaration.custom options package nullable).goType =
      CustomTypes.enumType options package
        (if nullable then "Null" ++ options.typeName declaration.schema declaration.name
          else options.typeName declaration.schema declaration.name) := by
  rw [custom, hkind]

theorem enumType_null (options : Options) (package : Option String) (name : String) :
    CustomTypes.enumType options package ("Null" ++ name) =
      { CustomTypes.enumType options package name with
        name := "Null" ++ (CustomTypes.enumType options package name).name } := by
  cases package <;> rfl

theorem nullableComposite_eq (options : Options) :
    CustomTypes.nullableComposite options =
      if options.nullPointers then { name := "string", pointer := true }
      else
        { source := some { path := "database/sql" }, package := some "sql",
          name := "NullString" } := by
  have hpointer : GoType.parse "*string" = { name := "string", pointer := true } := by
    decide
  have hnullString : GoType.parse "database/sql.NullString" =
      { source := some { path := "database/sql" }, package := some "sql",
        name := "NullString" } := by
    decide
  rw [CustomTypes.nullableComposite, apply_ite GoType.parse, hpointer, hnullString]

theorem goTypes_custom (declaration : TypeDeclaration) (options : Options)
    (package : Option String) :
    GoTypes options package declaration.schema declaration.name declaration.kind
      (declaration.custom options package false).goType
      (declaration.custom options package true).goType := by
  obtain ⟨schema, kind, name⟩ := declaration
  cases kind with
  | enum =>
      rw [goType_custom_of_enum rfl, goType_custom_of_enum rfl, if_pos rfl,
        if_neg Bool.false_ne_true, enumType_null]
      cases package <;> exact .enum rfl rfl rfl rfl rfl
  | composite =>
      have hplain : GoType.parse "string" = { name := "string" } := by decide
      simp only [custom, Bool.false_eq_true, if_false, if_true, hplain, nullableComposite_eq]
      by_cases hpointers : options.driver.isPgx = true ∧ options.emitPointersForNullTypes = true
      · have hnull : options.nullPointers = true := by
          rw [Options.nullPointers, hpointers.1, hpointers.2, Bool.and_self]
        rw [if_pos hnull]
        exact .pointer hpointers.1 hpointers.2
      · have hnull : ¬ options.nullPointers = true := by
          rwa [Options.nullPointers, Bool.and_eq_true]
        rw [if_neg hnull]
        exact .nullString hpointers

theorem givesPair_custom (declaration : TypeDeclaration) (options : Options)
    (package : Option String) :
    declaration.GivesPair options package (declaration.custom options package false)
      (declaration.custom options package true) where
  gives_plain := ⟨rfl, rfl, rfl, rfl⟩
  gives_null := ⟨rfl, rfl, rfl, rfl⟩
  goTypes := declaration.goTypes_custom options package

def pair (options : Options) (package : Option String) (declaration : TypeDeclaration) :
    CustomTypes :=
  [declaration.custom options package false, declaration.custom options package true]

end TypeDeclaration

/-- The schema has an enum or a composite type of this name. -/
def Schema.Declares (schema : Schema) (name : String) : Prop :=
  (∃ enum ∈ schema.enums, enum.name = name) ∨ ∃ type ∈ schema.compositeTypes, type.name = name

theorem Schema.schema_of_mem_typeDeclarations {schema : Schema} {declaration : TypeDeclaration}
    (h : declaration ∈ schema.typeDeclarations) : declaration.schema = schema.name := by
  rcases List.mem_append.1 h with h | h
  · obtain ⟨enum, -, rfl⟩ := List.mem_map.1 h
    rfl
  · obtain ⟨type, -, rfl⟩ := List.mem_map.1 h
    rfl

theorem Schema.exists_typeDeclaration_iff {schema : Schema} {name : String} :
    (∃ declaration ∈ schema.typeDeclarations, declaration.name = name) ↔ schema.Declares name := by
  simp [Schema.typeDeclarations, Schema.Declares, or_and_right, exists_or]

theorem mem_typeDeclarations {schemas : List Schema} {declaration : TypeDeclaration} :
    declaration ∈ typeDeclarations schemas ↔
      ∃ schema ∈ schemas, isReservedSchema schema.name = false ∧
        declaration ∈ schema.typeDeclarations := by
  simp [typeDeclarations, and_assoc]

theorem length_typeDeclarations (schemas : List Schema) :
    (typeDeclarations schemas).length =
      ((schemas.filter (! isReservedSchema ·.name)).flatMap Schema.enums).length +
        ((schemas.filter (! isReservedSchema ·.name)).flatMap Schema.compositeTypes).length := by
  rw [typeDeclarations]
  induction schemas.filter (! isReservedSchema ·.name) with
  | nil => rfl
  | cons schema rest ih =>
      simp only [List.flatMap_cons, List.length_append, ih, Schema.typeDeclarations,
        List.length_map]
      omega

theorem exists_named_typeDeclaration_iff {schemas : List Schema} {name : String} :
    (∃ declaration ∈ typeDeclarations schemas, declaration.name = name) ↔
      ∃ schema ∈ schemas, isReservedSchema schema.name = false ∧ schema.Declares name := by
  simp only [mem_typeDeclarations, ← Schema.exists_typeDeclaration_iff]
  constructor
  · rintro ⟨declaration, ⟨schema, hschema, hreserved, hmem⟩, hname⟩
    exact ⟨schema, hschema, hreserved, declaration, hmem, hname⟩
  · rintro ⟨schema, hschema, hreserved, declaration, hmem, hname⟩
    exact ⟨declaration, ⟨schema, hschema, hreserved, hmem⟩, hname⟩

theorem exists_isNamed_typeDeclaration_iff {schemas : List Schema} {schema name : String} :
    (∃ declaration ∈ typeDeclarations schemas, declaration.IsNamed schema name) ↔
      ∃ declaring ∈ schemas, isReservedSchema declaring.name = false ∧ declaring.name = schema ∧
        declaring.Declares name := by
  simp only [mem_typeDeclarations, ← Schema.exists_typeDeclaration_iff]
  constructor
  · rintro ⟨declaration, ⟨declaring, hdeclaring, hreserved, hmem⟩, rfl, hname⟩
    exact ⟨declaring, hdeclaring, hreserved, (Schema.schema_of_mem_typeDeclarations hmem).symm,
      declaration, hmem, hname⟩
  · rintro ⟨declaring, hdeclaring, hreserved, rfl, declaration, hmem, hname⟩
    exact ⟨declaration, ⟨declaring, hdeclaring, hreserved, hmem⟩,
      Schema.schema_of_mem_typeDeclarations hmem, hname⟩

namespace CustomTypes

variable {schemas : List Schema} {options : Options} {package : Option String}

theorem build_eq_flatMap (schemas : List Schema) (options : Options) (package : Option String) :
    build schemas options package =
      (typeDeclarations schemas).flatMap (TypeDeclaration.pair options package) := by
  have hschema : ∀ schema : Schema, ofSchema options package schema =
      schema.typeDeclarations.flatMap (TypeDeclaration.pair options package) := by
    intro schema
    rw [Schema.typeDeclarations, List.flatMap_append, List.flatMap_map, List.flatMap_map]
    rfl
  rw [typeDeclarations, List.flatMap_assoc, build]
  exact congrArg (fun f => List.flatMap f _) (funext hschema)

theorem length_build (schemas : List Schema) (options : Options) (package : Option String) :
    (build schemas options package).length = 2 * (typeDeclarations schemas).length := by
  rw [build_eq_flatMap]
  induction typeDeclarations schemas with
  | nil => rfl
  | cons declaration rest ih =>
      rw [List.flatMap_cons, List.length_append, ih, List.length_cons]
      simp only [TypeDeclaration.pair, List.length_cons, List.length_nil]
      omega

/-- A search for a nullability and for what the two types of a pair agree on finds the type of the
first declaration that is searched for. -/
theorem find?_build {p : TypeDeclaration → Bool} {q : CustomType → Bool}
    (hq : ∀ declaration nullable, q (declaration.custom options package nullable) = p declaration)
    (nullable : Bool) :
    List.find? (fun custom => q custom && custom.nullable == nullable)
        (build schemas options package) =
      ((typeDeclarations schemas).find? p).map (·.custom options package nullable) := by
  rw [build_eq_flatMap]
  -- The two types of a pair are found or passed over together, as far as `q` goes.
  induction typeDeclarations schemas with
  | nil => rfl
  | cons declaration rest ih =>
      rw [List.flatMap_cons, List.find?_append, ih]
      cases hp : p declaration with
      | true => cases nullable <;> simp [TypeDeclaration.pair, hq, hp]
      | false => simp [TypeDeclaration.pair, hq, hp]

theorem find?_build_eq (schemas : List Schema) (options : Options) (package : Option String)
    (schema name : String) (nullable : Bool) :
    (build schemas options package).find? schema name nullable =
      ((typeDeclarations schemas).find? fun declaration =>
        declaration.schema == schema && declaration.name == name).map
          (·.custom options package nullable) :=
  find?_build (q := fun custom => custom.schema == schema && custom.sqlName == name)
    (fun _ _ => rfl) nullable

theorem find?_build_of_isFirst {schema name : String} {declaration : TypeDeclaration}
    (h : IsFirst (·.IsNamed schema name) (typeDeclarations schemas) declaration)
    (nullable : Bool) :
    (build schemas options package).find? schema name nullable =
      some (declaration.custom options package nullable) := by
  rw [find?_build_eq,
    (find?_eq_some_iff_isFirst fun _ => TypeDeclaration.isNamed_iff).2 h, Option.map_some]

theorem findByName?_build_eq (schemas : List Schema) (options : Options) (package : Option String)
    (name : String) (nullable : Bool) :
    (build schemas options package).findByName? name nullable =
      ((typeDeclarations schemas).find? (·.name == name)).map
        (·.custom options package nullable) :=
  find?_build (q := (·.sqlName == name)) (fun _ _ => rfl) nullable

/-- What two searches find: the pair of the first declaration that is searched for, or nothing. -/
inductive Finds (schemas : List Schema) (options : Options) (package : Option String)
    (p : TypeDeclaration → Prop) : Option CustomType → Option CustomType → Prop where
  | pair {declaration : TypeDeclaration} {plain null : CustomType}
      (hfirst : IsFirst p (typeDeclarations schemas) declaration)
      (hpair : declaration.GivesPair options package plain null) :
      Finds schemas options package p (some plain) (some null)
  | nothing (h : ∀ declaration ∈ typeDeclarations schemas, ¬ p declaration) :
      Finds schemas options package p none none

theorem finds_map_find? {p : TypeDeclaration → Prop} {q : TypeDeclaration → Bool}
    (hq : ∀ declaration, p declaration ↔ q declaration = true) :
    Finds schemas options package p
      (((typeDeclarations schemas).find? q).map (·.custom options package false))
      (((typeDeclarations schemas).find? q).map (·.custom options package true)) := by
  cases h : (typeDeclarations schemas).find? q with
  | some declaration =>
      exact .pair ((find?_eq_some_iff_isFirst hq).1 h)
        (declaration.givesPair_custom options package)
  | none =>
      refine .nothing fun declaration hmem => ?_
      rw [hq]
      exact List.find?_eq_none.1 h declaration hmem

theorem isSome_map_find? {p : TypeDeclaration → Prop} {q : TypeDeclaration → Bool}
    (hq : ∀ declaration, p declaration ↔ q declaration = true) (nullable : Bool) :
    (((typeDeclarations schemas).find? q).map
      (·.custom options package nullable)).isSome = true ↔
        ∃ declaration ∈ typeDeclarations schemas, p declaration := by
  simp [hq]

/-- The declarations of enums and composite types give two custom types each, side by side and in
their order, and nothing else does. Searches that differ only in whether they ask for values that
can be null find the two types of one declaration, the first of the name; they find nothing just
where no schema that is not reserved declares it. -/
theorem build_in_pairs (schemas : List Schema) (options : Options)
    (package : Option String) :
    (∃ pairs : List (CustomType × CustomType),
      List.Forall₂ (fun declaration pair =>
          TypeDeclaration.GivesPair declaration options package pair.1 pair.2)
        (typeDeclarations schemas) pairs ∧
      build schemas options package = pairs.flatMap fun pair => [pair.1, pair.2]) ∧
    (build schemas options package).length =
      2 * (((schemas.filter (! isReservedSchema ·.name)).flatMap Schema.enums).length +
        ((schemas.filter (! isReservedSchema ·.name)).flatMap Schema.compositeTypes).length) ∧
    (∀ schema name,
      Finds schemas options package (·.IsNamed schema name)
        ((build schemas options package).find? schema name false)
        ((build schemas options package).find? schema name true)) ∧
    (∀ schema name nullable,
      ((build schemas options package).find? schema name nullable).isSome = true ↔
        ∃ declaring ∈ schemas, isReservedSchema declaring.name = false ∧
          declaring.name = schema ∧ declaring.Declares name) ∧
    (∀ name,
      Finds schemas options package (·.name = name)
        ((build schemas options package).findByName? name false)
        ((build schemas options package).findByName? name true)) ∧
    ∀ name nullable,
      ((build schemas options package).findByName? name nullable).isSome = true ↔
        ∃ declaring ∈ schemas, isReservedSchema declaring.name = false ∧
          declaring.Declares name := by
  refine ⟨⟨(typeDeclarations schemas).map fun declaration =>
      (declaration.custom options package false, declaration.custom options package true), ?_, ?_⟩,
    by rw [length_build, length_typeDeclarations], fun schema name => ?_,
    fun schema name nullable => ?_, fun name => ?_, fun name nullable => ?_⟩
  · rw [List.forall₂_map_right_iff, List.forall₂_same]
    exact fun declaration _ => declaration.givesPair_custom options package
  · rw [build_eq_flatMap, List.flatMap_map]
    rfl
  · rw [find?_build_eq, find?_build_eq]
    exact finds_map_find? fun _ => TypeDeclaration.isNamed_iff
  · rw [find?_build_eq, isSome_map_find? fun _ => TypeDeclaration.isNamed_iff,
      exists_isNamed_typeDeclaration_iff]
  · rw [findByName?_build_eq, findByName?_build_eq]
    exact finds_map_find? (by simp)
  · rw [findByName?_build_eq, isSome_map_find? (p := (·.name = name)) (by simp),
      exists_named_typeDeclaration_iff]

end CustomTypes

end LoaderGen

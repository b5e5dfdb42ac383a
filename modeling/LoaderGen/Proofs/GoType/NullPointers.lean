import LoaderGen.GoType.Resolution
import LoaderGen.Proofs.Lookup
import LoaderGen.Proofs.Options.Finalize

/-!
# Null values as pointers

An option makes null values pointers. The type of a column that is never null should not depend on
it, and it does for one declared type alone: a vector under the newest pgx driver is a pointer
wherever null values are, whether it can be null or not. Everywhere else what a map makes of values
that are never null is the same with and without pointers, and so are the custom types for them.
-/

namespace LoaderGen

/-- The options with null values as pointers, or without. -/
def Options.withNullPointers (options : Options) (emit : Bool) : Options :=
  { options with emitPointersForNullTypes := emit }

namespace TypeRule

/-- The rule makes a pointer where null values are pointers, null or not. -/
def PointsAlways : TypeRule → Prop
  | asPointer _ => True
  | _ => False

instance : DecidablePred PointsAlways
  | asPointer _ => isTrue trivial
  | fixed _ | orNull _ _ | orPointer _ => isFalse id

theorem resolve_neverNull {rule : TypeRule} (h : ¬ rule.PointsAlways) (pointers others : Bool) :
    rule.resolve true pointers = rule.resolve true others := by
  cases rule with
  | fixed spec => rfl
  | orNull base null => rfl
  | orPointer base => rfl
  | asPointer base => exact absurd trivial h

end TypeRule

namespace Postgres

/-- A rule that is found stands in a row of the table, by one of the row's names. -/
theorem exists_row_of_rule? {driver : Driver} {dataType : String} {rule : TypeRule}
    (h : rule? driver dataType = some rule) :
    ∃ row ∈ types, dataType ∈ row.1 ∧ row.2.under driver = some rule := by
  obtain ⟨row, hrow, hrule⟩ := Option.bind_eq_some_iff.1 h
  exact ⟨row, List.mem_of_find?_eq_some hrow, by simpa using List.find?_some hrow, hrule⟩

private theorem pointsAlways_types : ∀ row ∈ types, ∀ driver,
    ∀ rule ∈ row.2.under driver, rule.PointsAlways → row.1 = ["vector"] ∧ driver = .pgxV5 := by
  decide +kernel

theorem eq_vector_of_pointsAlways {driver : Driver} {dataType : String} {rule : TypeRule}
    (h : rule? driver dataType = some rule) (hpoints : rule.PointsAlways) :
    driver = .pgxV5 ∧ dataType = "vector" := by
  obtain ⟨row, hrow, hname, hrule⟩ := exists_row_of_rule? h
  obtain ⟨hvector, hdriver⟩ := pointsAlways_types row hrow driver rule hrule hpoints
  rw [hvector] at hname
  exact ⟨hdriver, List.mem_singleton.1 hname⟩

/-- The type that a vector is, or points to. -/
def vectorSpec : String := "github.com/pgvector/pgvector-go.Vector"

theorem rule?_vector : rule? .pgxV5 "vector" = some (.asPointer vectorSpec) := by
  decide +kernel

end Postgres

theorem Sqlite.not_pointsAlways {declared : String} {rule : TypeRule}
    (h : rule? declared = some rule) : ¬ rule.PointsAlways := by
  unfold rule? at h
  simp only at h
  split_ifs at h <;> · cases h; exact id

namespace CustomTypes

variable {schemas : List Schema} {options : Options} {package : Option String}

theorem ofEnum_withNullPointers (emit : Bool) (schema : String) (enum : Enum) :
    ofEnum (options.withNullPointers emit) package schema enum =
      ofEnum options package schema enum :=
  rfl

theorem filter_ofComposite (options : Options) (schema : String) (type : CompositeType) :
    (ofComposite options schema type).filter (!·.nullable) =
      [⟨.parse "string", type.name, schema, .composite, false⟩] :=
  rfl

/-- Of the custom types only those for null values depend on the option. -/
theorem filter_build_withNullPointers (emit : Bool) :
    (build schemas (options.withNullPointers emit) package).filter (!·.nullable) =
      (build schemas options package).filter (!·.nullable) := by
  simp only [build, List.filter_flatMap, ofSchema, List.filter_append, ofEnum_withNullPointers,
    filter_ofComposite]

/-- A search for values that are never null finds the same with the option and without. -/
theorem find?_build_withNullPointers (emit : Bool) (q : CustomType → Bool) :
    List.find? (fun type => q type && type.nullable == false)
        (build schemas (options.withNullPointers emit) package) =
      List.find? (fun type => q type && type.nullable == false)
        (build schemas options package) := by
  have hkept : ∀ type : CustomType, (q type && type.nullable == false) = true →
      (!type.nullable) = true := by
    intro type h
    rw [Bool.and_eq_true, beq_iff_eq] at h
    rw [h.2]
    rfl
  rw [← find?_filter_eq_find? hkept, filter_build_withNullPointers, find?_filter_eq_find? hkept]

end CustomTypes

namespace GoType

theorem wrapSlice_inj {type other : GoType} {dims : Nat} :
    type.wrapSlice dims = other.wrapSlice dims ↔ type = other := by
  obtain ⟨source, package, name, pointer, sliceDims⟩ := type
  obtain ⟨otherSource, otherPackage, otherName, otherPointer, otherDims⟩ := other
  simp [wrapSlice]

end GoType

namespace Engine

variable {engine : Engine} {options : Options} {schemas : List Schema} {package : Option String}
  {column : Column}

/-- The type of the column, with the custom types that are made under the same options. -/
def columnType (engine : Engine) (options : Options) (schemas : List Schema)
    (package : Option String) (column : Column) : GoType :=
  options.columnType (engine.mapType options (CustomTypes.build schemas options package)) column

theorem customType?_withNullPointers (hnever : column.neverNull = true) (emit : Bool) :
    engine.customType? (options.withNullPointers emit)
      (CustomTypes.build schemas (options.withNullPointers emit) package) column =
      engine.customType? options (CustomTypes.build schemas options package) column := by
  unfold customType?
  rw [hnever]
  cases engine with
  | postgresql =>
      refine Option.bind_congr fun type _ => ?_
      exact CustomTypes.find?_build_withNullPointers emit fun custom =>
        custom.schema == type.schemaOr options.defaultSchema && custom.sqlName == type.name
  | mysql =>
      exact CustomTypes.find?_build_withNullPointers emit (·.sqlName == column.dataType)
  | sqlite => rfl

/-- The column is a vector under the newest pgx driver. -/
def IsVector (engine : Engine) (options : Options) (column : Column) : Prop :=
  engine = .postgresql ∧ options.driver = .pgxV5 ∧ column.dataType = "vector"

theorem rule?_withNullPointers (emit : Bool) :
    engine.rule? (options.withNullPointers emit) column = engine.rule? options column :=
  rfl

theorem isVector_of_pointsAlways (hengine : engine ≠ .mysql) {rule : TypeRule}
    (h : engine.rule? options column = some rule) (hpoints : rule.PointsAlways) :
    engine.IsVector options column := by
  cases engine with
  | postgresql =>
      obtain ⟨hdriver, hvector⟩ := Postgres.eq_vector_of_pointsAlways h hpoints
      exact ⟨rfl, hdriver, hvector⟩
  | mysql => exact absurd rfl hengine
  | sqlite => exact absurd hpoints (Sqlite.not_pointsAlways h)

theorem mapType_of_isVector (h : engine.IsVector options column) (emit : Bool)
    (types : CustomTypes) :
    engine.mapType (options.withNullPointers emit) types column =
      (TypeRule.asPointer Postgres.vectorSpec).resolve column.neverNull emit := by
  obtain ⟨rfl, hdriver, hvector⟩ := h
  have hrule : postgresql.rule? options column = some (.asPointer Postgres.vectorSpec) := by
    rw [rule?, hdriver, hvector, Postgres.rule?_vector]
  have hpointers : postgresql.nullPointers (options.withNullPointers emit) = emit := by
    change (options.driver.isPgx && emit) = emit
    rw [hdriver]
    rfl
  rw [mapType, rule?_withNullPointers, hrule]
  simp only [hpointers]

/-- What the engine makes of a column that is never null depends on the option for vectors alone. -/
theorem mapType_withNullPointers (hnever : column.neverNull = true) :
    engine.mapType (options.withNullPointers true)
        (CustomTypes.build schemas (options.withNullPointers true) package) column =
      engine.mapType (options.withNullPointers false)
        (CustomTypes.build schemas (options.withNullPointers false) package) column ↔
      ¬ engine.IsVector options column := by
  constructor
  · intro heq hvector
    rw [mapType_of_isVector hvector, mapType_of_isVector hvector, hnever] at heq
    exact absurd heq (by decide)
  · intro hvector
    unfold mapType
    rw [rule?_withNullPointers, rule?_withNullPointers, customType?_withNullPointers hnever,
      customType?_withNullPointers hnever, hnever]
    cases hrule : engine.rule? options column with
    | none => rfl
    | some rule =>
        by_cases hengine : engine = .mysql
        · rw [hengine]
          rfl
        · exact TypeRule.resolve_neverNull
            (fun hpoints => hvector (isVector_of_pointsAlways hengine hrule hpoints)) _ _

end Engine

/-- Of the columns that are never null, the option for null values changes the type of vectors
alone, under the newest pgx driver and where no override replaces it. -/
theorem null_pointers_change_vectors (engine : Engine) (options : Options) (schemas : List Schema)
    (package : Option String) {column : Column} (hnever : column.neverNull = true) :
    engine.columnType (options.withNullPointers true) schemas package column ≠
        engine.columnType (options.withNullPointers false) schemas package column ↔
      engine = .postgresql ∧ options.driver = .pgxV5 ∧ column.dataType = "vector" ∧
        options.overrideFor? column = none := by
  have hoverride : ∀ emit, (options.withNullPointers emit).overrideFor? column =
      options.overrideFor? column := fun _ => rfl
  simp only [Engine.columnType, Options.columnType, hoverride, GoType.wrapSlice_inj, ne_eq]
  cases options.overrideFor? column with
  | some override => simp
  | none => simp [Engine.mapType_withNullPointers hnever, Engine.IsVector]

/-- The newest pgx driver. -/
def pgxOptions : Options := { plainOptions with sqlPackage := "pgx/v5" }

/-- A column that is never null. -/
def requiredColumn (dataType : String) : Column where
  name := "value"
  notNull := true
  type := some { name := dataType }

theorem null_pointers_keep_address :
    (requiredColumn "inet").neverNull = true ∧
      Engine.postgresql.columnType (pgxOptions.withNullPointers true) [] none
          (requiredColumn "inet") =
        Engine.postgresql.columnType (pgxOptions.withNullPointers false) [] none
          (requiredColumn "inet") := by
  have hchange := null_pointers_change_vectors .postgresql pgxOptions [] none
    (show (requiredColumn "inet").neverNull = true from rfl)
  refine ⟨rfl, Decidable.not_not.1 fun hne => ?_⟩
  have hvector : (requiredColumn "inet").dataType = "vector" := (hchange.1 hne).2.2.1
  exact absurd hvector (by decide)

/-- A request whose options choose the newest pgx driver and say whether null values are
pointers. -/
def pgxRequest (emit : String) : Request where
  pluginOptions := Text.bytesOf <|
    "\x7b\"package\": \"db\", \"sql_package\": \"pgx/v5\", " ++
      "\"emit_pointers_for_null_types\": " ++ emit ++ "\x7d"

/-- A vector that is never null becomes a pointer with the option. -/
theorem null_pointers_change_required_vector :
    Options.ofRequest (pgxRequest "true") = .ok (pgxOptions.withNullPointers true) ∧
    Options.ofRequest (pgxRequest "false") = .ok (pgxOptions.withNullPointers false) ∧
    (requiredColumn "vector").neverNull = true ∧
    (Engine.postgresql.columnType (pgxOptions.withNullPointers true) [] none
      (requiredColumn "vector")).toText = "*pgvector.Vector" ∧
    (Engine.postgresql.columnType (pgxOptions.withNullPointers false) [] none
      (requiredColumn "vector")).toText = "pgvector.Vector" := by
  refine ⟨toOption_eq_some.1 ?_, toOption_eq_some.1 ?_, rfl, ?_, ?_⟩ <;> decide +kernel

end LoaderGen

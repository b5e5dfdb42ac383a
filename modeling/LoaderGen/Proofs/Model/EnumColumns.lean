import LoaderGen.Proofs.CustomTypes
import LoaderGen.Proofs.Model.Qualifiers
import LoaderGen.Proofs.Model.Rows
import LoaderGen.Proofs.Options.Precedence

/-!
# Columns of enums

A column that is declared with an enum, and whose type neither an override nor the engine's map of
built-in types decides, has the enum's Go type: its name in the variant that the column needs, in
the package that the structs are in. What is recorded first under the declared schema and name
decides whether it is an enum. The package of structs and the package of custom types are settled
apart from each other, and they agree whether or not the structs have a package of their own.
-/

namespace LoaderGen

namespace Options

variable {options : Options}

/-- The type is one of the package of the structs: without an import it is beside the loaders. -/
structure IsInModel (options : Options) (type : GoType) : Prop where
  beside : options.modelImport = "" → type.package = none ∧ type.source = none
  separate : options.modelImport ≠ "" →
    type.package = some options.modelPackage ∧ type.source = some { path := options.modelImport }

theorem isInModel_structType (options : Options) (schema table : String) :
    options.IsInModel (options.structType schema table) := by
  constructor
  · intro himport
    have hpath : options.modelPath? = none := by simp [modelPath?, himport]
    simp [structType, hpath, GoType.named]
  · intro himport
    have hpath : options.modelPath? = some options.modelImport := by simp [modelPath?, himport]
    simp [structType, hpath, GoType.within]

/-- An enum's type is that of a struct under another name. -/
theorem enumType_eq_structType (options : Options) (schema table name : String) :
    CustomTypes.enumType options (options.modelPath?.map fun _ => options.modelPackage) name =
      { options.structType schema table with name := name } := by
  cases hpath : options.modelPath? with
  | none => simp [CustomTypes.enumType, structType, hpath, GoType.named]
  | some path => simp [CustomTypes.enumType, structType, hpath, GoType.named, GoType.within]

end Options

namespace Request

variable {request : Request} {options : Options} {column : Column} {type : Identifier}

/-- The column's type is declared as an enum before anything else of its name, and nothing decides
it earlier. -/
structure RecordsEnum (request : Request) (options : Options) (column : Column)
    (type : Identifier) : Prop where
  declared : column.type = some type
  noOverride : ∀ override ∈ options.overrides,
    ¬ override.MeansByName column options.defaultSchema ∧ ¬ override.MeansByType column
  notBuiltIn : Postgres.rule? options.driver column.dataType = none
  isEnum : ∃ declaration,
    IsFirst (·.IsNamed (type.schemaOr options.defaultSchema) type.name)
      (typeDeclarations request.catalog.schemas) declaration ∧ declaration.kind = .enum

theorem RecordsEnum.overrideFor?_eq (h : request.RecordsEnum options column type) :
    options.overrideFor? column = none :=
  Override.firstFor?_eq_iff.2 (.none (fun override hmem => (h.noOverride override hmem).1)
    fun override hmem => (h.noOverride override hmem).2)

/-- The engine maps the column to a type of the model's, in the variant for the column's values. -/
theorem RecordsEnum.mapType_eq (h : request.RecordsEnum options column type)
    (schema table : String) :
    Engine.postgresql.mapType options (request.customTypes options) column =
      { options.structType schema table with
        name :=
          if column.neverNull then
            options.typeName (type.schemaOr options.defaultSchema) type.name
          else "Null" ++ options.typeName (type.schemaOr options.defaultSchema) type.name } := by
  obtain ⟨declaration, hfirst, hkind⟩ := h.isEnum
  have hcustom : Engine.postgresql.customType? options (request.customTypes options) column =
      some (declaration.custom options (options.modelPath?.map fun _ => options.modelPackage)
        (!column.neverNull)) := by
    rw [Engine.customType?, h.declared, Option.bind_some, customTypes,
      CustomTypes.find?_build_of_isFirst hfirst]
  obtain ⟨hschema, hname⟩ := hfirst.has
  simp only [Engine.mapType, Engine.rule?, h.notBuiltIn, hcustom,
    TypeDeclaration.goType_custom_of_enum hkind, hschema, hname,
    options.enumType_eq_structType schema table]
  cases column.neverNull <;> rfl

/-- A request on the engine is resolved under accepted options. -/
theorem exists_resolve (haccepted : options.IsAccepted)
    (hengine : request.settings.engine = "postgresql") :
    ∃ resolution, request.resolve options = .ok resolution := by
  rw [exists_eq_ok_iff]
  rintro ⟨e, he⟩
  rw [resolve_eq_error fun entry hentry => haccepted.isSound hentry, hengine,
    Engine.ofName_eq_error] at he
  exact he.1 (by simp)

theorem exists_structType_of_mem {resolution : Resolution}
    (h : request.resolve options = .ok resolution) {struct : Struct}
    (hstruct : struct ∈ resolution.structs) :
    ∃ schema table, struct.type = options.structType schema table := by
  obtain ⟨engine, placed, -, rfl⟩ := exists_of_mem_structs (resolve_eq_ok.1 h).1 hstruct
  exact ⟨placed.schema, placed.table.rel.name, rfl⟩

end Request

/-- A column that is recorded as an enum gets the type of the struct around it under the enum's
name, with as many slices as the column asks for: the plain name where its values are never null,
else that of the variant that can be null. Whatever the model's import, it is in the package of the
structs. -/
theorem enum_columns_in_model {request : Request} {options : Options}
    (haccepted : options.IsAccepted) (hengine : request.settings.engine = "postgresql") :
    ∃ resolution, request.resolve options = .ok resolution ∧
      ∀ struct ∈ resolution.structs, options.IsInModel struct.type ∧
        struct.type.pointer = false ∧ struct.type.sliceDims = 0 ∧
        ∀ path field, struct.Holds path field → field.embedTable = none →
          ∀ type, request.RecordsEnum options field.column type →
            (field.column.notNull = true ∨ field.column.isArray = true →
              field.type = GoType.wrapSlice
                { struct.type with
                  name := options.typeName (type.schemaOr options.defaultSchema) type.name }
                field.column.sliceLevels) ∧
            (field.column.notNull = false ∧ field.column.isArray = false →
              field.type = GoType.wrapSlice
                { struct.type with
                  name :=
                    "Null" ++ options.typeName (type.schemaOr options.defaultSchema) type.name }
                field.column.sliceLevels) := by
  obtain ⟨resolution, hresolution⟩ := Request.exists_resolve haccepted hengine
  refine ⟨resolution, hresolution, fun struct hstruct => ?_⟩
  obtain ⟨schema, table, hstructType⟩ := Request.exists_structType_of_mem hresolution hstruct
  rw [hstructType]
  have hplainType : (options.structType schema table).pointer = false ∧
      (options.structType schema table).sliceDims = 0 := by
    unfold Options.structType
    split <;> exact ⟨rfl, rfl⟩
  refine ⟨options.isInModel_structType schema table, hplainType.1, hplainType.2,
    fun path field hfield hplain type hrecords => ?_⟩
  obtain ⟨engine, hfound, htype⟩ := (Request.type_of_holds hresolution hstruct hfield).2
  have hpostgresql : engine = .postgresql := by
    rw [hengine] at hfound
    exact (Except.ok.inj hfound).symm
  subst hpostgresql
  rw [htype hplain, Options.columnType_eq, hrecords.overrideFor?_eq, Option.elim_none,
    hrecords.mapType_eq schema table]
  constructor
  · intro hnever
    rw [if_pos (by simpa [Column.neverNull] using hnever)]
  · intro hnull
    rw [if_neg (by simpa [Column.neverNull] using hnull)]

def moodColumn : Column := { name := "mood", type := some { name := "mood" } }

def moodsColumn : Column :=
  { name := "moods", isArray := true, type := some { schema := "public", name := "mood" } }

/-- Books have a mood that can be null, and an array of moods. -/
def moodRequest : Request where
  settings := { engine := "postgresql" }
  catalog := {
    schemas := [{
      name := "public"
      enums := [{ name := "mood" }]
      compositeTypes := [{ name := "mood" }]
      tables := [{ rel := { name := "books" }, columns := [moodColumn, moodsColumn] }] }] }
  queries := [insertQuery { name := "books" }]
  pluginOptions := Text.bytesOf
    "\x7b\"package\": \"db\", \"model_import\": \"github.com/acme/app/model\"\x7d"

def moodOptions : Options := { plainOptions with modelImport := "github.com/acme/app/model" }

theorem recordsEnum_mood {column : Column} {type : Identifier} (hdeclared : column.type = some type)
    (hname : (type.schemaOr "public", type.name) = ("public", "mood"))
    (hbuiltIn : Postgres.rule? .libPq column.dataType = none) :
    moodRequest.RecordsEnum moodOptions column type where
  declared := hdeclared
  noOverride := List.forall_mem_nil _
  notBuiltIn := hbuiltIn
  isEnum := by
    obtain ⟨hschema, hname⟩ := Prod.mk.inj hname
    exact ⟨⟨"public", .enum, "mood"⟩, ⟨[], [⟨"public", .composite, "mood"⟩], by decide,
      ⟨hschema.symm, hname.symm⟩, List.forall_mem_nil _⟩, rfl⟩

/-- Both columns have types of the package of the struct of books. -/
theorem moods_of_books :
    ∃ options resolution struct, Options.ofRequest moodRequest = .ok options ∧
      moodRequest.resolve options = .ok resolution ∧ resolution.structs = [struct] ∧
      struct.type.toText = "model.Book" ∧
      struct.fields.map (fun field => (field.column, field.type)) =
        [(moodColumn, { struct.type with name := "NullMood" }),
          (moodsColumn, { struct.type with name := "Mood", sliceDims := 1 })] := by
  have hoptions : Options.ofRequest moodRequest = .ok moodOptions :=
    toOption_eq_some.1 (by decide +kernel)
  have hrun : (moodRequest.structs moodOptions (moodRequest.customTypes moodOptions)).toOption.map
      (·.map fun struct => (struct.type.toText, struct.fields.map fun field =>
        (field.column, field.embedTable))) =
      some [("model.Book", [(moodColumn, none), (moodsColumn, none)])] := by
    decide +kernel
  obtain ⟨struct, hbuilt, hshown⟩ := Request.exists_struct_of_run hrun
  obtain ⟨htext, hfields⟩ := Prod.mk.inj hshown
  have hengine : moodRequest.settings.engine = "postgresql" := rfl
  obtain ⟨resolution, hresolution, henums⟩ :=
    enum_columns_in_model (.inl ⟨moodRequest, hoptions⟩) hengine
  have hstructs : resolution.structs = [struct] :=
    Except.ok.inj ((Request.resolve_eq_ok.1 hresolution).1.symm.trans hbuilt)
  obtain ⟨-, hpointer, hslices, htypes⟩ := henums struct (by simp [hstructs])
  obtain ⟨single, rest, hsplit, hsingle, hrest⟩ := List.map_eq_cons_iff.1 hfields
  obtain ⟨several, rfl, hseveral⟩ := List.map_eq_singleton_iff.1 hrest
  have hname : moodOptions.typeName "public" "mood" = "Mood" := by decide +kernel
  have hnull : "Null" ++ moodOptions.typeName "public" "mood" = "NullMood" := by rw [hname]; rfl
  obtain ⟨hcolumn, hplain⟩ := Prod.mk.inj hsingle
  obtain ⟨hcolumns, hplains⟩ := Prod.mk.inj hseveral
  have hmood : single.type = { struct.type with name := "NullMood" } := by
    have htype := htypes _ single (.top (by simp [hsplit])) hplain { name := "mood" }
    rw [hcolumn] at htype
    rw [(htype (recordsEnum_mood rfl rfl (by decide +kernel))).2 ⟨rfl, rfl⟩, ← hnull]
    rfl
  have hmoods : several.type = { struct.type with name := "Mood", sliceDims := 1 } := by
    have htype := htypes _ several (.top (by simp [hsplit])) hplains
      { schema := "public", name := "mood" }
    rw [hcolumns] at htype
    rw [(htype (recordsEnum_mood rfl rfl (by decide +kernel))).1 (.inr rfl),
      show moodsColumn.sliceLevels = 1 from rfl, GoType.wrapSlice, hslices, ← hname]
    rfl
  refine ⟨moodOptions, resolution, struct, hoptions, hresolution, hstructs, htext, ?_⟩
  rw [hsplit]
  simp [hcolumn, hcolumns, hmood, hmoods]

end LoaderGen

import LoaderGen.Proofs.GoType.Qualifier
import LoaderGen.Proofs.Loaders
import LoaderGen.Proofs.Model.Embedding

/-!
# The qualifiers of one import

The types that a resolution names come from two places. Those of structs, embedded rows and enums
are put into the model package, all others are read from specifications. Within either of the two,
one import goes with one qualifier. Between them it need not: the model package is the last segment
of the model's path, and what that path implies can be another name.
-/

namespace LoaderGen

theorem Options.putsInModel_structType (options : Options) (schema table : String) :
    options.PutsInModel (options.structType schema table) := by
  intro imp himp
  unfold Options.structType at himp ⊢
  split at himp
  · next path hpath =>
    cases himp
    exact ⟨by rw [Options.eq_of_modelPath?_eq_some hpath], rfl⟩
  · cases himp

namespace Builder

variable {builder : Builder} {path : List Identifier} {column : Column} {placed : PlacedTable}
  {field : Field}

/-- Wherever a field stands in the tree of a struct, it is built from columns inside the tables on
its path, except for being marked as a key. -/
theorem exists_mem_fields_of_holds (h : (builder.struct placed).Holds path field) :
    ∃ columns, ∃ built ∈ builder.fields path columns, ∃ isKey,
      field = { built with isPrimaryKey := isKey } := by
  induction h with
  | top h =>
      obtain ⟨built, hbuilt, rfl⟩ := List.mem_map.1 h
      exact ⟨_, built, hbuilt, _, rfl⟩
  | @inner path outer field table _ htable h ih =>
      obtain ⟨columns, built, hbuilt, isKey, rfl⟩ := ih
      obtain ⟨hembed, hfields⟩ := embeds_of_mem_fields hbuilt
      rw [hembed] at htable
      obtain ⟨placed, hplaced, rfl⟩ := Option.map_eq_some_iff.1 htable
      rw [hfields, embeddedFields, hplaced] at h
      exact ⟨_, field, h, field.isPrimaryKey, by cases field; rfl⟩

/-- The type of a field: the struct of the row that it embeds, else the column's own type. -/
theorem type_of_mem_fields {columns : List Column} (h : field ∈ builder.fields path columns) :
    field.type = match builder.embedded? path field.column with
      | some placed => builder.options.structType placed.schema placed.table.rel.name
      | none => builder.options.columnType builder.mapType field.column := by
  obtain ⟨column, -, name, rfl⟩ := exists_of_mem_fields h
  unfold columnField
  cases hrow : builder.embedded? path column with
  | some placed => simp [Builder.field, hrow]
  | none => simp [Builder.field, hrow]

end Builder

namespace Request

variable {request : Request} {options : Options} {engine : Engine} {column : Column}

/-- The column is declared with an enum, and no override replaces its type. -/
def DeclaresEnum (request : Request) (options : Options) (column : Column) : Prop :=
  options.overrideFor? column = none ∧
    ∃ engine, Engine.ofName request.settings.engine = .ok engine ∧
      engine.rule? options column = none ∧
      ∃ custom, engine.customType? options (request.customTypes options) column = some custom ∧
        custom.kind = .enum

theorem putsInModel_columnType (hengine : Engine.ofName request.settings.engine = .ok engine)
    (h : request.DeclaresEnum options column) :
    options.PutsInModel
      (options.columnType (engine.mapType options (request.customTypes options)) column) := by
  obtain ⟨hoverride, found, hfound, hrule, custom, hcustom, hkind⟩ := h
  rw [hengine] at hfound
  cases hfound
  obtain ⟨-, name, hname⟩ | ⟨hcomposite, -⟩ :=
    CustomTypes.goType_of_mem_build (Engine.mem_of_customType? hcustom)
  · simp only [Options.columnType, hoverride, Engine.mapType, hrule, hcustom, hname]
    exact (options.putsInModel_enumType name).wrapSlice column.sliceLevels
  · rw [hkind] at hcomposite
    cases hcomposite

theorem isImplied_columnType (hengine : Engine.ofName request.settings.engine = .ok engine)
    (h : ¬ request.DeclaresEnum options column) :
    (options.columnType (engine.mapType options (request.customTypes options))
      column).IsImplied := by
  unfold Options.columnType
  refine GoType.IsImplied.wrapSlice ?_ column.sliceLevels
  cases hoverride : options.overrideFor? column with
  | some override => exact override.rule.goType.isImplied_resolve
  | none =>
      simp only [Engine.mapType]
      cases hrule : engine.rule? options column with
      | some rule => exact rule.isImplied_resolve _ _
      | none =>
          cases hcustom : engine.customType? options (request.customTypes options) column with
          | none => exact GoType.isImplied_named anyType
          | some custom =>
              obtain ⟨hkind, -⟩ | ⟨-, hcomposite⟩ :=
                CustomTypes.goType_of_mem_build (Engine.mem_of_customType? hcustom)
              · exact absurd ⟨hoverride, engine, hengine, hrule, custom, hcustom, hkind⟩ h
              · exact hcomposite

end Request

namespace Resolution

/-- The resolution names the type: for a struct, or for a field wherever it stands. -/
inductive Names (resolution : Resolution) : GoType → Prop where
  | struct {struct : Struct} (h : struct ∈ resolution.structs) : resolution.Names struct.type
  | field {struct : Struct} {path : List Identifier} {field : Field}
      (hstruct : struct ∈ resolution.structs) (hfield : struct.Holds path field) :
      resolution.Names field.type

/-- The resolution names the type for a struct, for a row that a field embeds, or for a column that
is declared with an enum. -/
inductive NamesOfModel (resolution : Resolution) (isEnum : Column → Prop) : GoType → Prop where
  | struct {struct : Struct} (h : struct ∈ resolution.structs) :
      resolution.NamesOfModel isEnum struct.type
  | embedded {struct : Struct} {path : List Identifier} {field : Field} {table : Identifier}
      (hstruct : struct ∈ resolution.structs) (hfield : struct.Holds path field)
      (htable : field.embedTable = some table) : resolution.NamesOfModel isEnum field.type
  | enum {struct : Struct} {path : List Identifier} {field : Field}
      (hstruct : struct ∈ resolution.structs) (hfield : struct.Holds path field)
      (hplain : field.embedTable = none) (henum : isEnum field.column) :
      resolution.NamesOfModel isEnum field.type

/-- The resolution names the type for any other column. -/
inductive NamesOfColumn (resolution : Resolution) (isEnum : Column → Prop) : GoType → Prop where
  | field {struct : Struct} {path : List Identifier} {field : Field}
      (hstruct : struct ∈ resolution.structs) (hfield : struct.Holds path field)
      (hplain : field.embedTable = none) (henum : ¬ isEnum field.column) :
      resolution.NamesOfColumn isEnum field.type

theorem Names.cases {resolution : Resolution} {type : GoType} (h : resolution.Names type)
    (isEnum : Column → Prop) :
    resolution.NamesOfModel isEnum type ∨ resolution.NamesOfColumn isEnum type := by
  cases h with
  | struct h => exact .inl (.struct h)
  | @field struct path field hstruct hfield =>
      cases htable : field.embedTable with
      | some table => exact .inl (.embedded hstruct hfield htable)
      | none =>
          by_cases henum : isEnum field.column
          · exact .inl (.enum hstruct hfield htable henum)
          · exact .inr (.field hstruct hfield htable henum)

end Resolution

section Types

variable {request : Request} {options : Options} {resolution : Resolution} {type : GoType}

/-- The type of a field, wherever it stands: the struct of the row that it embeds, else the column's
own type. -/
theorem Request.type_of_holds (h : request.resolve options = .ok resolution) {struct : Struct}
    (hstruct : struct ∈ resolution.structs) {path : List Identifier} {field : Field}
    (hfield : struct.Holds path field) :
    (field.embedTable.isSome → ∃ schema table, field.type = options.structType schema table) ∧
      ∃ engine, Engine.ofName request.settings.engine = .ok engine ∧
        (field.embedTable = none → field.type =
          options.columnType (engine.mapType options (request.customTypes options))
            field.column) := by
  obtain ⟨engine, hengine, hstructs⟩ := structs_eq_ok.1 (resolve_eq_ok.1 h).1
  rw [hstructs] at hstruct
  obtain ⟨placed, -, rfl⟩ := List.mem_map.1 hstruct
  obtain ⟨columns, built, hbuilt, isKey, rfl⟩ := Builder.exists_mem_fields_of_holds hfield
  have htype := Builder.type_of_mem_fields hbuilt
  have hembed := (Builder.embeds_of_mem_fields hbuilt).1
  refine ⟨fun hsome => ?_, engine, hengine, fun hnone => ?_⟩
  · rw [hembed, Option.isSome_map] at hsome
    obtain ⟨row, hrow⟩ := Option.isSome_iff_exists.1 hsome
    rw [hrow] at htype
    exact ⟨row.schema, row.table.rel.name, htype⟩
  · rw [hembed, Option.map_eq_none_iff] at hnone
    rw [hnone] at htype
    exact htype

theorem Resolution.NamesOfModel.putsInModel (h : request.resolve options = .ok resolution)
    (htype : resolution.NamesOfModel (request.DeclaresEnum options) type) :
    options.PutsInModel type := by
  cases htype with
  | struct hstruct =>
      obtain ⟨engine, -, hstructs⟩ := Request.structs_eq_ok.1 (Request.resolve_eq_ok.1 h).1
      rw [hstructs] at hstruct
      obtain ⟨placed, -, rfl⟩ := List.mem_map.1 hstruct
      exact options.putsInModel_structType placed.schema placed.table.rel.name
  | embedded hstruct hfield htable =>
      obtain ⟨schema, table, htype⟩ :=
        (Request.type_of_holds h hstruct hfield).1 (by rw [htable]; rfl)
      rw [htype]
      exact options.putsInModel_structType schema table
  | enum hstruct hfield hplain henum =>
      obtain ⟨engine, hengine, htype⟩ := (Request.type_of_holds h hstruct hfield).2
      rw [htype hplain]
      exact Request.putsInModel_columnType hengine henum

theorem Resolution.NamesOfColumn.isImplied (h : request.resolve options = .ok resolution)
    (htype : resolution.NamesOfColumn (request.DeclaresEnum options) type) : type.IsImplied := by
  obtain ⟨hstruct, hfield, hplain, henum⟩ := htype
  obtain ⟨engine, hengine, htype⟩ := (Request.type_of_holds h hstruct hfield).2
  rw [htype hplain]
  exact Request.isImplied_columnType hengine henum

/-- A type of the model's and one of a column disagree on an import where the model package is not
what the import is known as. -/
theorem Options.PutsInModel.package_ne_iff {other : GoType} {imp : Import}
    (hmodel : options.PutsInModel type) (himplied : other.IsImplied)
    (htype : type.source = some imp) (hother : other.source = some imp) :
    type.package ≠ other.package ↔
      imp = { path := options.modelImport } ∧ options.modelPackage ≠ imp.qualifier := by
  obtain ⟨himp, hpackage⟩ := hmodel imp htype
  rw [hpackage, himplied imp hother, ne_eq, Option.some_inj]
  exact ⟨fun hne => ⟨himp, hne⟩, And.right⟩

end Types

/-- Types that carry one import disagree on its qualifier between the two origins alone, and just
where the model package is not what the model's import is known as. -/
theorem qualifiers_of_imports {request : Request} {options : Options} {resolution : Resolution}
    (h : request.resolve options = .ok resolution) :
    (∀ type, resolution.NamesOfModel (request.DeclaresEnum options) type →
      options.PutsInModel type) ∧
    (∀ type, resolution.NamesOfColumn (request.DeclaresEnum options) type → type.IsImplied) ∧
    ∀ type other imp, resolution.Names type → resolution.Names other →
      type.source = some imp → other.source = some imp →
      (type.package ≠ other.package ↔
        imp = { path := options.modelImport } ∧ options.modelPackage ≠ imp.qualifier ∧
          (resolution.NamesOfModel (request.DeclaresEnum options) type ∧
              resolution.NamesOfColumn (request.DeclaresEnum options) other ∨
            resolution.NamesOfColumn (request.DeclaresEnum options) type ∧
              resolution.NamesOfModel (request.DeclaresEnum options) other)) := by
  have hmodel {type} (htype : resolution.NamesOfModel (request.DeclaresEnum options) type) :=
    htype.putsInModel h
  have hcolumn {type} (htype : resolution.NamesOfColumn (request.DeclaresEnum options) type) :=
    htype.isImplied h
  refine ⟨fun _ => hmodel, fun _ => hcolumn, ?_⟩
  intro type other imp htype hother himp himpOther
  constructor
  · intro hne
    obtain htype | htype := htype.cases (request.DeclaresEnum options) <;>
      obtain hother | hother := hother.cases (request.DeclaresEnum options)
    · rw [(hmodel htype imp himp).2, (hmodel hother imp himpOther).2] at hne
      exact absurd rfl hne
    · obtain ⟨hpath, hpackage⟩ :=
        ((hmodel htype).package_ne_iff (hcolumn hother) himp himpOther).1 hne
      exact ⟨hpath, hpackage, .inl ⟨htype, hother⟩⟩
    · obtain ⟨hpath, hpackage⟩ :=
        ((hmodel hother).package_ne_iff (hcolumn htype) himpOther himp).1 hne.symm
      exact ⟨hpath, hpackage, .inr ⟨htype, hother⟩⟩
    · rw [hcolumn htype imp himp, hcolumn hother imp himpOther] at hne
      exact absurd rfl hne
  · rintro ⟨hpath, hpackage, ⟨htype, hother⟩ | ⟨htype, hother⟩⟩
    · exact ((hmodel htype).package_ne_iff (hcolumn hother) himp himpOther).2 ⟨hpath, hpackage⟩
    · exact (((hmodel hother).package_ne_iff (hcolumn htype) himpOther himp).2
        ⟨hpath, hpackage⟩).symm

/-- A run that shows two types, of a struct and of a field in it, names both. -/
theorem Request.exists_names_of_run (request : Request) (options : Options)
    (p : GoType → GoType → Prop) [∀ type other, Decidable (p type other)]
    (h : ((request.resolve options).toOption.any fun resolution =>
      resolution.structs.any fun struct => struct.fields.any fun field =>
        decide (p struct.type field.type)) = true) :
    ∃ resolution, request.resolve options = .ok resolution ∧
      ∃ type other, resolution.Names type ∧ resolution.Names other ∧ p type other := by
  simp only [Option.any_eq_true, List.any_eq_true, decide_eq_true_eq, toOption_eq_some] at h
  obtain ⟨resolution, hresolution, struct, hstruct, field, hfield, hp⟩ := h
  exact ⟨resolution, hresolution, struct.type, field.type, .struct hstruct,
    .field hstruct (.top hfield), hp⟩

/-- A table whose texts have a type of the model's import. -/
def statusRequest (modelImport : String) : Request where
  settings := { engine := "sqlite" }
  catalog := {
    schemas := [{
      name := "public"
      tables := [{
        rel := { name := "authors" }
        columns := [{ name := "status", notNull := true, type := some { name := "text" } }] }] }] }
  queries := [{ name := "add", insertIntoTable := some { name := "authors" } }]
  pluginOptions := Text.bytesOf <|
    "\x7b\"package\": \"db\", \"model_import\": \"" ++ modelImport ++ "\", \"overrides\": " ++
      "[\x7b\"db_type\": \"text\", \"go_type\": \"" ++ modelImport ++ ".Status\"\x7d]\x7d"

def statusOptions (modelImport : String) : Options :=
  { plainOptions with
    modelImport := modelImport
    overrides := [{
      rule := { goType := .text (modelImport ++ ".Status"), dbType := "text" }
      matcher := none }] }

theorem qualifiers_of_model :
    ∃ options resolution,
      Options.ofRequest (statusRequest "github.com/acme/app/model") = .ok options ∧
      (statusRequest "github.com/acme/app/model").resolve options = .ok resolution ∧
      ∃ type other imp, resolution.Names type ∧ resolution.Names other ∧ type ≠ other ∧
        type.source = some imp ∧ other.source = some imp ∧ type.package = other.package := by
  have hoptions : (Options.ofRequest (statusRequest "github.com/acme/app/model")).toOption =
      some (statusOptions "github.com/acme/app/model") := by
    decide +kernel
  obtain ⟨resolution, hresolution, type, other, hnames, hnamesOther, hne, htype, hother⟩ :=
    Request.exists_names_of_run (statusRequest "github.com/acme/app/model")
      (statusOptions "github.com/acme/app/model")
      (fun type other => type ≠ other ∧
        type.source = some { path := "github.com/acme/app/model" } ∧
        other.source = some { path := "github.com/acme/app/model" })
      (by decide +kernel)
  have himplied : (statusOptions "github.com/acme/app/model").modelPackage =
      Import.qualifier { path := "github.com/acme/app/model" } := by
    decide +kernel
  have hqualifiers := (qualifiers_of_imports hresolution).2.2 type other _ hnames hnamesOther htype
    hother
  have hpackage : type.package = other.package := by
    by_contra hpackage
    exact (hqualifiers.1 hpackage).2.1 himplied
  exact ⟨_, resolution, toOption_eq_some.1 hoptions, hresolution, type, other, _, hnames,
    hnamesOther, hne, htype, hother, hpackage⟩

/-- A major version ends the model's path: the structs are qualified by it, other types by what
stands before it. -/
theorem qualifiers_of_versioned_model :
    ∃ options resolution,
      Options.ofRequest (statusRequest "github.com/acme/model/v2") = .ok options ∧
      (statusRequest "github.com/acme/model/v2").resolve options = .ok resolution ∧
      ∃ type other imp, resolution.Names type ∧ resolution.Names other ∧
        type.source = some imp ∧ other.source = some imp ∧
        type.toText = "v2.Author" ∧ type.package = some "v2" ∧
        other.toText = "model.Status" ∧ other.package = some "model" := by
  have hoptions : (Options.ofRequest (statusRequest "github.com/acme/model/v2")).toOption =
      some (statusOptions "github.com/acme/model/v2") := by
    decide +kernel
  obtain ⟨resolution, hresolution, type, other, hnames, hnamesOther, htype, hother, htexts⟩ :=
    Request.exists_names_of_run (statusRequest "github.com/acme/model/v2")
      (statusOptions "github.com/acme/model/v2")
      (fun type other =>
        type.source = some { path := "github.com/acme/model/v2" } ∧
        other.source = some { path := "github.com/acme/model/v2" } ∧
        type.toText = "v2.Author" ∧ type.package = some "v2" ∧
        other.toText = "model.Status" ∧ other.package = some "model")
      (by decide +kernel)
  exact ⟨_, resolution, toOption_eq_some.1 hoptions, hresolution, type, other, _, hnames,
    hnamesOther, htype, hother, htexts⟩

end LoaderGen

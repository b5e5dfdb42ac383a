import LoaderGen.Proofs.GoType.Specification
import LoaderGen.Proofs.Options.Precedence

/-!
# Slices around a type

Whatever decides the type of one value of a column, an override or the engine, the column only puts
slices around it. How many is a matter of the column alone, and an array is at least empty, so that
it makes no difference whether it is declared as never null.
-/

namespace LoaderGen

namespace GoType

/-- Slices are written in front of what is inside them. -/
theorem toText_wrapSlice (type : GoType) (levels : Nat) :
    (type.wrapSlice levels).toText =
      String.join (List.replicate levels "[]") ++ type.toText := by
  rw [join_replicate_slice]
  simp only [toText, wrapSlice, sliceText_add, String.ofList_append, String.append_assoc]
  rfl

end GoType

namespace Column

variable {column : Column}

/-- The column puts this many slices around a value: one as a slice parameter, whatever is said of
arrays, else as many as an array has dimensions, though one at least, and else none. -/
inductive PutsSlices (column : Column) : Nat → Prop where
  | parameter (hslice : column.isSlice = true) : column.PutsSlices 1
  | array (hslice : column.isSlice = false) (harray : column.isArray = true) :
      column.PutsSlices (max 1 column.arrayDims.toNat)
  | single (hslice : column.isSlice = false) (harray : column.isArray = false) :
      column.PutsSlices 0

theorem putsSlices_sliceLevels (column : Column) : column.PutsSlices column.sliceLevels := by
  unfold sliceLevels
  split
  · next hslice => exact .parameter hslice
  · next hslice =>
    split
    · next harray => exact .array (by simpa using hslice) harray
    · next harray => exact .single (by simpa using hslice) (by simpa using harray)

def withNotNull (column : Column) (notNull : Bool) : Column := { column with notNull := notNull }

theorem neverNull_withNotNull (harray : column.isArray = true) (notNull : Bool) :
    (column.withNotNull notNull).neverNull = column.neverNull := by
  simp [neverNull, withNotNull, harray]

end Column

namespace Override

variable {overrides : List Override} {column : Column} {defaultSchema : String}

theorem firstFor?_withNotNull (harray : column.isArray = true) (notNull : Bool) :
    firstFor? overrides (column.withNotNull notNull) defaultSchema =
      firstFor? overrides column defaultSchema := by
  have hdeclared : ∀ override : Override,
      override.matchesDeclaration (column.withNotNull notNull) =
        override.matchesDeclaration column := by
    intro override
    rw [matchesDeclaration, Column.neverNull_withNotNull harray]
    rfl
  simp only [firstFor?, hdeclared]
  rfl

end Override

namespace Engine

/-- Neither a built-in type nor a custom one depends on whether an array is declared as never
null. -/
theorem mapType_withNotNull {column : Column} (harray : column.isArray = true) (engine : Engine)
    (options : Options) (types : CustomTypes) (notNull : Bool) :
    engine.mapType options types (column.withNotNull notNull) =
      engine.mapType options types column := by
  have hrule : engine.rule? options (column.withNotNull notNull) = engine.rule? options column := by
    cases engine <;> rfl
  have hcustom : engine.customType? options types (column.withNotNull notNull) =
      engine.customType? options types column := by
    unfold customType?
    rw [Column.neverNull_withNotNull harray]
    rfl
  rw [mapType, mapType, hrule, hcustom, Column.neverNull_withNotNull harray]

end Engine

namespace Options

variable {options : Options} {mapType : Column → GoType} {column : Column}

/-- The type of one value of the column: that of the override chosen for it, or without one what
the engine makes of it. -/
inductive HasElement (options : Options) (mapType : Column → GoType) (column : Column) :
    GoType → Prop where
  | override {override : Override}
      (h : Override.Chosen options.overrides column options.defaultSchema (some override)) :
      options.HasElement mapType column override.rule.goType.resolve
  | engine (h : Override.Chosen options.overrides column options.defaultSchema none) :
      options.HasElement mapType column (mapType column)

theorem exists_hasElement (options : Options) (mapType : Column → GoType) (column : Column) :
    ∃ element, options.HasElement mapType column element ∧
      options.columnType mapType column = element.wrapSlice column.sliceLevels := by
  rw [columnType_eq]
  cases hoverride : options.overrideFor? column with
  | some override => exact ⟨_, .override (Override.firstFor?_eq_iff.1 hoverride), rfl⟩
  | none => exact ⟨_, .engine (Override.firstFor?_eq_iff.1 hoverride), rfl⟩

theorem columnType_withNotNull (harray : column.isArray = true) (engine : Engine)
    (options : Options) (types : CustomTypes) (notNull : Bool) :
    options.columnType (engine.mapType options types) (column.withNotNull notNull) =
      options.columnType (engine.mapType options types) column := by
  rw [columnType_eq, columnType_eq, overrideFor?, Override.firstFor?_withNotNull harray,
    Engine.mapType_withNotNull harray]
  rfl

end Options

/-- A column's type is that of one value, which an override decides whatever the engine makes of the
column, with the slices of the column added and nothing else changed, and its text is that of one
value behind as many brackets. For an array it is the same type on every engine whether or not the
array is declared as never null. -/
theorem slices_around_element :
    (∀ (options : Options) (mapType : Column → GoType) (column : Column),
      ∃ element levels, options.HasElement mapType column element ∧ column.PutsSlices levels ∧
        options.columnType mapType column =
          { element with sliceDims := element.sliceDims + levels } ∧
        (options.columnType mapType column).toText =
          String.join (List.replicate levels "[]") ++ element.toText) ∧
    ∀ (engine : Engine) (options : Options) (types : CustomTypes) (column : Column),
      column.isArray = true → ∀ notNull,
        options.columnType (engine.mapType options types) { column with notNull := notNull } =
          options.columnType (engine.mapType options types) column := by
  refine ⟨fun options mapType column => ?_, fun engine options types column harray =>
    Options.columnType_withNotNull harray engine options types⟩
  obtain ⟨element, helement, htype⟩ := options.exists_hasElement mapType column
  refine ⟨element, column.sliceLevels, helement, column.putsSlices_sliceLevels, htype, ?_⟩
  rw [htype, GoType.toText_wrapSlice]

/-- The only override is for integers that are never null, and its type is a slice of pointers. -/
def idOptions : Options :=
  { plainOptions with
    overrides := [{ rule := { goType := .text "[]*Id", dbType := "int4" }, matcher := none }] }

def matrixColumn : Column :=
  { name := "ids", isArray := true, arrayDims := 2, type := some { name := "int4" } }

/-- The dimensions come before the override's own slice, and the override is the array's either
way. -/
theorem slices_of_matrix :
    (idOptions.columnType (Engine.postgresql.mapType idOptions []) matrixColumn).toText =
      "[][][]*Id" ∧
    idOptions.columnType (Engine.postgresql.mapType idOptions []) { matrixColumn with
        notNull := true } =
      idOptions.columnType (Engine.postgresql.mapType idOptions []) matrixColumn :=
  ⟨by decide +kernel, slices_around_element.2 .postgresql idOptions [] matrixColumn rfl true⟩

end LoaderGen

import LoaderGen.Model.Build
import LoaderGen.Proofs.Outcome

/-!
# The structs of a request

Structs are built for a request on a known engine, and on any other the name of the engine is the
fault. They are those of the tables reached, in catalog order, and the fields of each are made of
the columns kept.
-/

namespace LoaderGen

namespace Engine

theorem ofName?_eq_none {name : String} :
    ofName? name = none ↔ name ∉ ["postgresql", "mysql", "sqlite"] := by
  simp only [ofName?, List.find?_eq_none, Engine.name, beq_iff_eq]
  simp [eq_comm]

theorem ofName_eq_error {name : String} {e : OptionsError} :
    ofName name = .error e ↔
      name ∉ ["postgresql", "mysql", "sqlite"] ∧ e = .unsupportedEngine name := by
  rw [← ofName?_eq_none]
  unfold ofName
  cases ofName? name with
  | none => simp [eq_comm]
  | some engine => simp

theorem exists_ofName {name : String} (h : name ∈ ["postgresql", "mysql", "sqlite"]) :
    ∃ engine, ofName name = .ok engine := by
  cases hname : ofName name with
  | ok engine => exact ⟨engine, rfl⟩
  | error e => exact absurd h (ofName_eq_error.1 hname).1

end Engine

/-- The struct is made of the table: it has its name and its comment, and one field for each column
kept, in order. -/
structure Struct.IsOf (struct : Struct) (options : Options) (placed : PlacedTable) : Prop where
  table : struct.table = placed.ident
  comment : struct.comment = placed.table.comment
  columns : struct.fields.map Field.column =
    options.keptColumns placed.ident placed.table.columns

namespace Struct

theorem primaryKey?_eq_some {struct : Struct} {key : Field} :
    struct.primaryKey? = some key ↔ struct.primaryKeys = [key] := by
  unfold primaryKey?
  split
  · next found hfound => rw [hfound, Option.some_inj, List.cons.injEq, and_iff_left rfl]
  · next hmany => exact ⟨fun h => absurd h (by simp), fun h => absurd h (hmany key)⟩

/-- A loader needs one primary key, neither none nor several. -/
theorem isLoadable_iff {struct : Struct} :
    struct.isLoadable = true ↔ struct.fields.countP Field.isPrimaryKey = 1 := by
  rw [isLoadable, Option.isSome_iff_exists, List.countP_eq_length_filter, List.length_eq_one_iff]
  exact exists_congr fun key => primaryKey?_eq_some

end Struct

namespace Builder

/-- What does not depend on its name, a field keeps when its name is made different from others. -/
theorem map_nameApart {γ : Type} {g : Field → γ}
    (hg : ∀ (field : Field) (name : String), g { field with name := name } = g field)
    (fields : List Field) : (nameApart fields).map g = fields.map g := by
  have hlength : fields.length = (Numbering.distinct (fields.map Field.name)).length := by
    rw [Numbering.distinct, Numbering.length_distinctFrom, List.length_map]
  rw [nameApart, List.map_zipWith]
  simp only [hg]
  calc List.zipWith (fun field _ => g field) fields (Numbering.distinct (fields.map Field.name))
      = ((fields.zip (Numbering.distinct (fields.map Field.name))).map Prod.fst).map g := by
        rw [List.map_map, ← List.map_uncurry_zip_eq_zipWith]
        rfl
    _ = fields.map g := by rw [List.map_fst_zip (Nat.le_of_eq hlength)]

/-- What a column becomes inside the tables on the path, under its own name. -/
def columnField (builder : Builder) (path : List Identifier) (column : Column) : Field :=
  match builder.embedded? path column with
  | some placed =>
    builder.field column (builder.options.structType placed.schema placed.table.rel.name)
      (some placed.ident) (builder.fields (placed.ident :: path)
        (builder.options.keptColumns placed.ident placed.table.columns))
  | none => builder.field column (builder.options.columnType builder.mapType column) none []

theorem fields_eq_nameApart (builder : Builder) (path : List Identifier) (columns : List Column) :
    builder.fields path columns = nameApart (columns.map (builder.columnField path)) := by
  rw [fields]
  congr 1
  refine List.map_congr_left fun column _ => ?_
  unfold columnField
  split
  · next placed hplaced => rw [hplaced]
  · next hnone => rw [hnone]

theorem map_column_fields (builder : Builder) (path : List Identifier) (columns : List Column) :
    (builder.fields path columns).map Field.column = columns := by
  rw [fields, map_nameApart fun _ _ => rfl, List.map_map]
  refine (List.map_congr_left fun column _ => ?_).trans (List.map_id columns)
  simp only [Function.comp_apply]
  split <;> rfl

theorem isOf_struct (builder : Builder) (placed : PlacedTable) :
    (builder.struct placed).IsOf builder.options placed where
  table := rfl
  comment := rfl
  columns := by
    simp only [struct, markKeys, List.map_map]
    exact map_column_fields builder [placed.ident] _

end Builder

namespace Request

variable {request : Request} {options : Options} {types : CustomTypes}

def builder (request : Request) (options : Options) (types : CustomTypes) (engine : Engine) :
    Builder := ⟨request.catalog, options, engine.mapType options types⟩

/-- The tables of a request that get a struct, in catalog order. -/
def structTables (request : Request) (options : Options) : List PlacedTable :=
  request.catalog.placedTables.filter fun placed =>
    !isReservedSchema placed.schema &&
      (request.reachableTables options.defaultSchema).contains placed.ident

theorem structs_eq_error {e : OptionsError} :
    request.structs options types = .error e ↔
      Engine.ofName request.settings.engine = .error e := by
  simp only [structs, bind_eq_error]
  constructor
  · rintro (h | ⟨engine, -, h⟩)
    · exact h
    · cases h
  · exact .inl

theorem structs_eq_ok {structs : List Struct} :
    request.structs options types = .ok structs ↔
      ∃ engine, Engine.ofName request.settings.engine = .ok engine ∧
        structs =
          (request.structTables options).map (request.builder options types engine).struct := by
  simp only [Request.structs, bind_eq_ok]
  constructor
  · rintro ⟨engine, hengine, h⟩
    exact ⟨engine, hengine, (Except.ok.inj h).symm⟩
  · rintro ⟨engine, hengine, rfl⟩
    exact ⟨engine, hengine, rfl⟩

theorem exists_of_mem_structs {structs : List Struct} {struct : Struct}
    (h : request.structs options types = .ok structs) (hstruct : struct ∈ structs) :
    ∃ engine, ∃ placed ∈ request.catalog.placedTables,
      (request.builder options types engine).struct placed = struct := by
  obtain ⟨engine, -, rfl⟩ := structs_eq_ok.1 h
  obtain ⟨placed, hplaced, rfl⟩ := List.mem_map.1 hstruct
  exact ⟨engine, placed, (List.mem_filter.1 hplaced).1, rfl⟩

end Request

end LoaderGen

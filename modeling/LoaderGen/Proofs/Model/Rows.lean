import LoaderGen.Proofs.Model.Embedding
import LoaderGen.Proofs.Model.Numbering
import LoaderGen.Proofs.Reach

/-!
# The rows of a struct

A struct has a row of fields of its own, and each row embedded in one of its rows is a further one.
The columns of a row are those of one table that the options do not leave out, in the order of the
table. Which columns are left out is asked for each table by itself: entries that name a column of
one table say nothing of the tables around it.
-/

namespace LoaderGen

/-- The fields are a row of the struct: its own, or one embedded in another row of it. -/
inductive Struct.HasRow (struct : Struct) : List Field → Prop where
  | own : struct.HasRow struct.fields
  | embedded {row : List Field} {outer : Field} (hrow : struct.HasRow row) (houter : outer ∈ row) :
      struct.HasRow outer.embedFields

/-- The last point of the entry stands between the owner and the column. -/
def CutsAtLastPoint (entry owner column : String) : Prop :=
  entry = owner ++ "." ++ column ∧ '.' ∉ column.toList

namespace Options

variable {options : Options} {table : Identifier} {column entry : String} {entries : List String}

/-- Cut at its last point, the entry has the name of the column on the right, and on the left the
table with its schema, or the table alone when its schema is the default one. -/
def NamesColumn (options : Options) (table : Identifier) (column entry : String) : Prop :=
  ∃ owner, CutsAtLastPoint entry owner column ∧
    (owner = table.schema ++ "." ++ table.name ∨
      owner = table.name ∧ table.schema = options.defaultSchema)

/-- Some entry of the list names the column of the table. -/
def Listed (options : Options) (entries : List String) (table : Identifier) (column : String) :
    Prop :=
  ∃ entry ∈ entries, options.NamesColumn table column entry

theorem cutsAtLastPoint_iff {owner : String} :
    CutsAtLastPoint entry owner column ↔
      Text.splitAtLast? '.' entry.toList = some (owner.toList, column.toList) := by
  rw [Text.splitAtLast?_eq_some, CutsAtLastPoint, ← String.toList_inj]
  simp

theorem entryNames_iff (h : table.schema ≠ "") :
    options.entryNames table column entry = true ↔ options.NamesColumn table column entry := by
  have htext : table.toText = table.schema ++ "." ++ table.name := by
    simp [Identifier.toText, h]
  unfold NamesColumn entryNames
  simp only [cutsAtLastPoint_iff, ← htext]
  cases hcut : Text.splitAtLast? '.' entry.toList with
  | none => simp
  | some parts =>
      obtain ⟨left, right⟩ := parts
      simp only [Bool.and_eq_true, Bool.or_eq_true, beq_iff_eq, Option.some.injEq, Prod.mk.injEq]
      constructor
      · rintro ⟨rfl, howner⟩
        exact ⟨String.ofList left, ⟨by simp, by simp⟩, by tauto⟩
      · rintro ⟨owner, ⟨rfl, rfl⟩, howner⟩
        simp only [String.ofList_toList]
        exact ⟨trivial, by tauto⟩

theorem lists_iff (h : table.schema ≠ "") :
    options.lists entries table column = true ↔ options.Listed entries table column := by
  simp only [lists, List.any_eq_true, Listed, entryNames_iff h]

/-- A column with a point in its name is listed by no entry, any other by its spellings. -/
theorem listed_iff :
    options.Listed entries table column ↔
      '.' ∉ column.toList ∧
        (table.schema ++ "." ++ table.name ++ "." ++ column ∈ entries ∨
          table.name ++ "." ++ column ∈ entries ∧ table.schema = options.defaultSchema) := by
  constructor
  · rintro ⟨entry, hentry, owner, ⟨rfl, hpoint⟩, rfl | ⟨rfl, hschema⟩⟩
    · exact ⟨hpoint, .inl hentry⟩
    · exact ⟨hpoint, .inr ⟨hentry, hschema⟩⟩
  · rintro ⟨hpoint, hentry | ⟨hentry, hschema⟩⟩
    · exact ⟨_, hentry, _, ⟨rfl, hpoint⟩, .inl rfl⟩
    · exact ⟨_, hentry, _, ⟨rfl, hpoint⟩, .inr ⟨rfl, hschema⟩⟩

instance (options : Options) (entries : List String) (table : Identifier) :
    DecidablePred (options.Listed entries table) := fun column =>
  decidable_of_iff ((!column.toList.contains '.' &&
      (entries.contains (table.schema ++ "." ++ table.name ++ "." ++ column) ||
        entries.contains (table.name ++ "." ++ column) &&
          table.schema == options.defaultSchema)) = true) (by simp [listed_iff])

/-- The fields of the row are those of the columns of the table that are not left out, each column
in its place and once. -/
structure IsRowOf (options : Options) (placed : PlacedTable) (row : List Field) : Prop where
  columns : row.map Field.column = placed.table.columns.filter fun column =>
    ¬ options.Listed options.ignoreColumns placed.ident column.name
  dbName : ∀ field ∈ row, field.dbName = field.column.name

theorem keptColumns_eq_filter {placed : PlacedTable} (h : placed.ident.schema ≠ "")
    (columns : List Column) :
    options.keptColumns placed.ident columns = columns.filter fun column =>
      ¬ options.Listed options.ignoreColumns placed.ident column.name := by
  refine List.filter_congr fun column _ => ?_
  rw [Bool.eq_iff_iff, Bool.not_eq_true', decide_eq_true_eq, ← lists_iff h, Bool.not_eq_true]

end Options

namespace Builder

variable {builder : Builder} {path : List Identifier} {placed : PlacedTable} {row : List Field}

/-- What the fields of a row have in common when they are built inside the tables on the path: each
embeds what its column embeds there, and their names are those of their columns, made different. -/
structure IsRow (builder : Builder) (path : List Identifier) (row : List Field) : Prop where
  embeds : ∀ field ∈ row, builder.Embeds path field
  dbName : ∀ field ∈ row, field.dbName = field.column.name
  names : row.map Field.name =
    Numbering.distinct (row.map fun field => builder.options.fieldName field.column.name)

theorem map_name_nameApart (fields : List Field) :
    (nameApart fields).map Field.name = Numbering.distinct (fields.map Field.name) := by
  have hlength : (Numbering.distinct (fields.map Field.name)).length = fields.length := by
    rw [Numbering.length_distinct, List.length_map]
  rw [nameApart, List.map_zipWith]
  calc List.zipWith (fun _ name => name) fields (Numbering.distinct (fields.map Field.name))
      = (fields.zip (Numbering.distinct (fields.map Field.name))).map Prod.snd := by
        rw [← List.map_uncurry_zip_eq_zipWith]
        rfl
    _ = Numbering.distinct (fields.map Field.name) := List.map_snd_zip (Nat.le_of_eq hlength)

theorem dbName_columnField (path : List Identifier) (column : Column) :
    (builder.columnField path column).dbName =
      (builder.columnField path column).column.name := by
  unfold columnField
  split <;> rfl

theorem name_columnField (path : List Identifier) (column : Column) :
    (builder.columnField path column).name =
      builder.options.fieldName (builder.columnField path column).column.name := by
  unfold columnField
  split <;> rfl

theorem isRow_fields (builder : Builder) (path : List Identifier) (columns : List Column) :
    builder.IsRow path (builder.fields path columns) where
  embeds _ hfield := embeds_of_mem_fields hfield
  dbName := by
    intro field hfield
    obtain ⟨column, -, name, rfl⟩ := exists_of_mem_fields hfield
    exact dbName_columnField path column
  names := by
    have hnames : (columns.map (builder.columnField path)).map Field.name =
        (columns.map (builder.columnField path)).map fun field =>
          builder.options.fieldName field.column.name := by
      rw [List.map_map, List.map_map]
      exact List.map_congr_left fun column _ => name_columnField path column
    rw [fields_eq_nameApart, map_name_nameApart, hnames, map_nameApart fun _ _ => rfl]

/-- A struct's own row differs from what is built by the primary keys alone. -/
theorem isRow_struct (builder : Builder) (placed : PlacedTable) :
    builder.IsRow [placed.ident] (builder.struct placed).fields where
  embeds _ hfield := embeds_of_mem_struct hfield
  dbName := by
    intro field hfield
    obtain ⟨built, hbuilt, rfl⟩ := List.mem_map.1 hfield
    exact (isRow_fields builder [placed.ident] _).dbName built hbuilt
  names := by
    have hnames := (isRow_fields builder [placed.ident]
      (builder.options.keptColumns placed.ident placed.table.columns)).names
    simp only [struct, markKeys, List.map_map]
    exact hnames

theorem exists_isRow_embedded {outer : Field} (h : builder.Embeds path outer) :
    ∃ path, builder.IsRow path outer.embedFields := by
  rw [h.2]
  unfold embeddedFields
  split
  · exact ⟨_, isRow_fields builder _ _⟩
  · exact ⟨path, ⟨List.forall_mem_nil _, List.forall_mem_nil _, rfl⟩⟩

/-- Every row of a struct is built inside the tables on some path. -/
theorem exists_isRow_of_hasRow (h : (builder.struct placed).HasRow row) :
    ∃ path, builder.IsRow path row := by
  induction h with
  | own => exact ⟨_, isRow_struct builder placed⟩
  | embedded hrow houter ih =>
      obtain ⟨path, hpath⟩ := ih
      exact exists_isRow_embedded (hpath.embeds _ houter)

theorem findTable?_of_embedded? {column : Column}
    (h : builder.embedded? path column = some placed) :
    builder.catalog.findTable? placed.ident = some placed := by
  have hident := (embedded?_eq_some h).2.2
  simp only [embedded?, Option.bind_eq_bind, Option.bind_eq_some_iff] at h
  obtain ⟨target, hcolumn, h⟩ := h
  rw [hcolumn, Option.map_some, Option.some_inj] at hident
  split at h
  · cases h
  · rw [← hident]
    exact h

theorem schema_ne_of_embedded? {column : Column}
    (h : builder.embedded? path column = some placed) : placed.ident.schema ≠ "" := by
  obtain ⟨-, -, htarget⟩ := embedded?_eq_some h
  obtain ⟨target, -, hident⟩ := Option.map_eq_some_iff.1 htarget
  rw [← hident]
  exact target.schemaOr_ne builder.options.defaultSchema_ne

theorem isRowOf_struct (builder : Builder) (hschema : placed.ident.schema ≠ "") :
    builder.options.IsRowOf placed (builder.struct placed).fields where
  columns := by rw [(isOf_struct builder placed).columns, Options.keptColumns_eq_filter hschema]
  dbName := (isRow_struct builder placed).dbName

/-- The row that a field embeds is one of the table that it names, the first of that name in the
catalog. -/
theorem Embeds.isRowOf {outer : Field} {table : Identifier} (h : builder.Embeds path outer)
    (htable : outer.embedTable = some table) :
    ∃ placed, builder.catalog.findTable? table = some placed ∧ placed.ident = table ∧
      builder.options.IsRowOf placed outer.embedFields := by
  obtain ⟨hembed, hfields⟩ := h
  rw [htable, eq_comm, Option.map_eq_some_iff] at hembed
  obtain ⟨placed, hplaced, rfl⟩ := hembed
  have hschema := schema_ne_of_embedded? hplaced
  rw [hfields, embeddedFields, hplaced]
  refine ⟨placed, findTable?_of_embedded? hplaced, rfl, ⟨?_, (isRow_fields builder _ _).dbName⟩⟩
  rw [map_column_fields, Options.keptColumns_eq_filter hschema]

end Builder

/-- The columns behind the fields are those kept, at every depth. A struct's own row is one of the
table that the struct is for, and the row that a field embeds is one of the table that the field
names. Each leaves out the columns that are listed for its own table, and has the others in order
and once. -/
theorem rows_of_kept_columns {request : Request} {options : Options} {types : CustomTypes}
    {structs : List Struct} (h : request.structs options types = .ok structs) :
    List.Forall₂ (fun placed struct =>
        struct.table = placed.ident ∧ options.IsRowOf placed struct.fields)
      (request.structTables options) structs ∧
    ∀ struct ∈ structs, ∀ row, struct.HasRow row → ∀ outer ∈ row,
      ∀ table, outer.embedTable = some table →
        ∃ placed, request.catalog.findTable? table = some placed ∧ placed.ident = table ∧
          options.IsRowOf placed outer.embedFields := by
  obtain ⟨engine, -, rfl⟩ := Request.structs_eq_ok.1 h
  constructor
  · rw [List.forall₂_map_right_iff, List.forall₂_same]
    intro placed hplaced
    obtain ⟨-, -, hreached⟩ := Request.mem_structTables.1 hplaced
    exact ⟨rfl, (request.builder options types engine).isRowOf_struct hreached.schema_ne⟩
  · intro struct hstruct row hrow outer houter table htable
    obtain ⟨placed, -, rfl⟩ := List.mem_map.1 hstruct
    obtain ⟨path, hpath⟩ := Builder.exists_isRow_of_hasRow hrow
    exact (hpath.embeds outer houter).isRowOf htable

/-- A run that shows something of one struct has that struct. -/
theorem Request.exists_struct_of_run {request : Request} {options : Options} {types : CustomTypes}
    {γ : Type} {g : Struct → γ} {shown : γ}
    (h : (request.structs options types).toOption.map (·.map g) = some [shown]) :
    ∃ struct, request.structs options types = .ok [struct] ∧ g struct = shown := by
  obtain ⟨structs, hstructs, hshown⟩ := Option.map_eq_some_iff.1 h
  obtain ⟨struct, rfl, hstruct⟩ := List.map_eq_singleton_iff.1 hshown
  exact ⟨struct, toOption_eq_some.1 hstructs, hstruct⟩

/-- Books have a note and the row of their author, which has a note too. -/
def annotatedLibrary : Request where
  settings := { engine := "sqlite" }
  catalog := {
    schemas := [{
      name := "public"
      tables := [
        { rel := { name := "authors" }, columns := [{ name := "id" }, { name := "note" }] },
        { rel := { name := "books" }
          columns := [{ name := "id" }, { name := "note" },
            { name := "author", embedTable := some { name := "authors" } }] }] }] }
  queries := [insertQuery { name := "books" }]

def withoutAuthorNotes : Options := { plainOptions with ignoreColumns := ["authors.note"] }

/-- The notes of authors are left out inside books, and those of books are not. -/
theorem rows_of_annotated_books :
    ∃ struct, annotatedLibrary.structs withoutAuthorNotes [] = .ok [struct] ∧
      struct.fields.map Field.dbName = ["id", "note", "author"] ∧
      ∃ outer ∈ struct.fields, outer.embedTable = some { schema := "public", name := "authors" } ∧
        outer.embedFields.map Field.dbName = ["id"] ∧
        ∃ placed, placed.ident = { schema := "public", name := "authors" } ∧
          withoutAuthorNotes.IsRowOf placed outer.embedFields := by
  have hrun : (annotatedLibrary.structs withoutAuthorNotes []).toOption.map (·.map fun struct =>
      struct.fields.map fun field =>
        (field.dbName, field.embedTable, field.embedFields.map Field.dbName)) =
      some [[("id", none, []), ("note", none, []),
        ("author", some { schema := "public", name := "authors" }, ["id"])]] := by
    decide +kernel
  obtain ⟨struct, hstruct, hshown⟩ := Request.exists_struct_of_run hrun
  have hmem : ("author", some { schema := "public", name := "authors" }, ["id"]) ∈
      struct.fields.map fun field =>
        (field.dbName, field.embedTable, field.embedFields.map Field.dbName) := by
    rw [hshown]
    simp
  obtain ⟨outer, houter, hfields⟩ := List.mem_map.1 hmem
  obtain ⟨-, hfields⟩ := Prod.mk.inj hfields
  obtain ⟨htable, hinner⟩ := Prod.mk.inj hfields
  obtain ⟨placed, -, hplaced, hrow⟩ := (rows_of_kept_columns hstruct).2 struct
    (List.mem_singleton_self struct) struct.fields .own outer houter _ htable
  refine ⟨struct, hstruct, ?_, outer, houter, htable, hinner, placed, hplaced, hrow⟩
  have hnames := congrArg (List.map Prod.fst) hshown
  rwa [List.map_map] at hnames

end LoaderGen

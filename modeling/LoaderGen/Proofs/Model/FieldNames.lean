import LoaderGen.Proofs.Lookup
import LoaderGen.Proofs.Model.Rows

/-!
# The names of fields

Several columns of one table can have one name as identifiers, so the fields of a row are numbered.
The name of a field depends on its column and on the names before it in its row. No two fields of a
row have one name, however the numbers meet other names, and a field is found by its name. Other
rows do not matter, those embedded in the row among them, nor do the columns that come later.
-/

namespace LoaderGen

namespace Builder

variable {builder : Builder} {path : List Identifier} {row : List Field}

theorem IsRow.nodup_names (h : builder.IsRow path row) : (row.map Field.name).Nodup := by
  rw [h.names]
  exact Numbering.nodup_distinct _

theorem IsRow.isNumbered {before after : List Field} {field : Field}
    (h : builder.IsRow path (before ++ field :: after)) :
    Numbering.IsNumbered (before.map Field.name)
      (builder.options.fieldName field.column.name) field.name := by
  have hnames := h.names
  simp only [List.map_append, List.map_cons] at hnames
  obtain ⟨given, rest, hdistinct, hgiven⟩ := Numbering.distinct_append_cons
    (before.map fun field => builder.options.fieldName field.column.name)
    (after.map fun field => builder.options.fieldName field.column.name)
    (builder.options.fieldName field.column.name)
  rw [hdistinct] at hnames
  obtain ⟨hbefore, hrest⟩ := List.append_inj hnames (by simp [Numbering.length_distinct])
  obtain ⟨hname, -⟩ := List.cons.inj hrest
  rw [hbefore, hname]
  exact hgiven

/-- The first names of a row are those of its first columns. -/
theorem IsRow.take_names (h : builder.IsRow path row) (k : Nat) :
    (row.take k).map Field.name =
      Numbering.distinct
        (((row.take k).map fun field => field.column.name).map builder.options.fieldName) := by
  have hcolumns : ((row.take k).map fun field => field.column.name).map builder.options.fieldName =
      (row.map fun field => builder.options.fieldName field.column.name).take k := by
    rw [List.map_map, ← List.map_take]
    rfl
  rw [hcolumns, List.map_take, h.names]
  exact Numbering.take_distinctFrom k [] _

end Builder

namespace Request

/-- The fields are a row of one of the structs that the request gets under the options. -/
def HasRow (request : Request) (options : Options) (row : List Field) : Prop :=
  ∃ types structs, request.structs options types = .ok structs ∧
    ∃ struct ∈ structs, struct.HasRow row

variable {request : Request} {options : Options} {row : List Field}

theorem HasRow.exists_isRow (h : request.HasRow options row) :
    ∃ (builder : Builder) (path : List Identifier),
      builder.options = options ∧ builder.IsRow path row := by
  obtain ⟨types, structs, hstructs, struct, hstruct, hrow⟩ := h
  obtain ⟨engine, -, rfl⟩ := structs_eq_ok.1 hstructs
  obtain ⟨placed, -, rfl⟩ := List.mem_map.1 hstruct
  obtain ⟨path, hpath⟩ := Builder.exists_isRow_of_hasRow hrow
  exact ⟨request.builder options types engine, path, rfl, hpath⟩

end Request

/-- No two fields of a row have one name, at any depth, and so a struct's fields are found by their
names. A field has its column's name as an identifier, with the least number that makes it new when
an earlier field of the row has that name. The first names of rows with the same first columns are
the same, of whatever requests, and whatever columns follow. -/
theorem field_names_numbered (options : Options) :
    (∀ request row, Request.HasRow request options row →
      (row.map Field.name).Nodup ∧
      ∀ before field after, row = before ++ field :: after →
        Numbering.IsNumbered (before.map Field.name) (options.fieldName field.column.name)
          field.name) ∧
    (∀ (request : Request) types structs, request.structs options types = .ok structs →
      ∀ struct ∈ structs, ∀ field ∈ struct.fields, struct.field? field.name = some field) ∧
    ∀ request other row otherRow, Request.HasRow request options row →
      Request.HasRow other options otherRow →
      ∀ k, (row.take k).map (·.column.name) = (otherRow.take k).map (·.column.name) →
        (row.take k).map Field.name = (otherRow.take k).map Field.name := by
  refine ⟨fun request row hrow => ?_, fun request types structs h struct hstruct => ?_,
    fun request other row otherRow hrow hother k hcolumns => ?_⟩
  · obtain ⟨builder, path, rfl, hbuilt⟩ := hrow.exists_isRow
    refine ⟨hbuilt.nodup_names, fun before field after hsplit => ?_⟩
    subst hsplit
    exact hbuilt.isNumbered
  · intro field hfield
    have hown : request.HasRow options struct.fields :=
      ⟨types, structs, h, struct, hstruct, .own⟩
    obtain ⟨builder, path, -, hbuilt⟩ := hown.exists_isRow
    exact (find?_key_eq_some hbuilt.nodup_names).2 ⟨hfield, rfl⟩
  · obtain ⟨builder, path, hoptions, hbuilt⟩ := hrow.exists_isRow
    obtain ⟨otherBuilder, otherPath, hsame, hotherBuilt⟩ := hother.exists_isRow
    rw [hbuilt.take_names, hotherBuilt.take_names, hcolumns, hoptions, hsame]

/-- A request for one table with the columns. -/
def taggedRequest (columns : List String) : Request where
  settings := { engine := "sqlite" }
  catalog := {
    schemas := [{
      name := "public"
      tables := [{ rel := { name := "tags" }, columns := columns.map ({ name := · }) }] }] }
  queries := [insertQuery { name := "tags" }]

/-- The second column is numbered, and so are the third, whose own name that number has made, and
the fourth, for which two is taken. With another third column the first two names stay. -/
theorem names_of_clashing_columns :
    ∃ struct other,
      (taggedRequest ["a_b", "a-b", "a_b2", "a.b"]).structs plainOptions [] = .ok [struct] ∧
      (taggedRequest ["a_b", "a-b", "c"]).structs plainOptions [] = .ok [other] ∧
      struct.fields.map Field.name = ["AB", "AB2", "AB22", "AB3"] ∧
      (struct.fields.map Field.name).Nodup ∧
      (∀ before field after, struct.fields = before ++ field :: after →
        Numbering.IsNumbered (before.map Field.name) (plainOptions.fieldName field.column.name)
          field.name) ∧
      (∀ field ∈ struct.fields, struct.field? field.name = some field) ∧
      (struct.fields.take 2).map Field.name = (other.fields.take 2).map Field.name := by
  have hrun : ((taggedRequest ["a_b", "a-b", "a_b2", "a.b"]).structs plainOptions []).toOption.map
      (·.map fun struct => struct.fields.map fun field => (field.column.name, field.name)) =
      some [[("a_b", "AB"), ("a-b", "AB2"), ("a_b2", "AB22"), ("a.b", "AB3")]] := by
    decide +kernel
  have hother : ((taggedRequest ["a_b", "a-b", "c"]).structs plainOptions []).toOption.map
      (·.map fun struct => struct.fields.map fun field => field.column.name) =
      some [["a_b", "a-b", "c"]] := by
    decide +kernel
  obtain ⟨struct, hstruct, hshown⟩ := Request.exists_struct_of_run hrun
  obtain ⟨other, hotherStruct, hcolumns⟩ := Request.exists_struct_of_run hother
  have hnames := congrArg (List.map Prod.snd) hshown
  have hown := congrArg (List.map Prod.fst) hshown
  rw [List.map_map] at hnames hown
  have hfirst : (struct.fields.take 2).map (·.column.name) =
      (other.fields.take 2).map (·.column.name) := by
    rw [List.map_take, List.map_take, hcolumns]
    exact (congrArg (List.take 2) hown).trans rfl
  have hrow : (taggedRequest ["a_b", "a-b", "a_b2", "a.b"]).HasRow plainOptions struct.fields :=
    ⟨[], _, hstruct, struct, List.mem_singleton_self struct, .own⟩
  have hotherRow : (taggedRequest ["a_b", "a-b", "c"]).HasRow plainOptions other.fields :=
    ⟨[], _, hotherStruct, other, List.mem_singleton_self other, .own⟩
  obtain ⟨hrows, hfound, hsame⟩ := field_names_numbered plainOptions
  obtain ⟨hnodup, hnumbered⟩ := hrows _ _ hrow
  exact ⟨struct, other, hstruct, hotherStruct, hnames, hnodup, hnumbered,
    hfound _ _ _ hstruct struct (List.mem_singleton_self struct),
    hsame _ _ _ _ hrow hotherRow 2 hfirst⟩

end LoaderGen

import LoaderGen.Proofs.Model.Structs
import LoaderGen.Proofs.Options.Finalize
import Mathlib.Data.Finset.Dedup
import Mathlib.Data.Finset.Card

/-!
# Embedded rows

A field that embeds a row holds the fields of another table, and these can embed further rows, so a
struct is a tree of fields. The path of a field is the list of the tables around it, the innermost
first and the struct's own last. Whether a field embeds a row depends on its column and on its path
alone: it does when the column asks for a table of the catalog that is not on the path. No table
stands twice on a path, so the tree is no deeper than the catalog has tables, however the tables ask
for one another.
-/

namespace LoaderGen

/-- The field is in the tree of the struct, inside the tables on the path. -/
inductive Struct.Holds (struct : Struct) : List Identifier → Field → Prop where
  | top {field : Field} (h : field ∈ struct.fields) : struct.Holds [struct.table] field
  | inner {path : List Identifier} {outer field : Field} {table : Identifier}
      (houter : struct.Holds path outer) (htable : outer.embedTable = some table)
      (h : field ∈ outer.embedFields) : struct.Holds (table :: path) field

/-- The tables of the catalog by schema and name, each once. -/
def Catalog.tables (catalog : Catalog) : Finset Identifier :=
  (catalog.placedTables.map PlacedTable.ident).toFinset

/-- The table that a column asks to embed. -/
def Options.embedTarget? (options : Options) (column : Column) : Option Identifier :=
  column.embedTable.map (·.tableIn options.defaultSchema)

namespace Builder

variable {builder : Builder} {path : List Identifier} {column : Column} {placed : PlacedTable}

theorem mem_tables (h : placed ∈ builder.catalog.placedTables) :
    placed.ident ∈ builder.catalog.tables :=
  List.mem_toFinset.2 (List.mem_map_of_mem h)

theorem exists_embedded? {table : Identifier}
    (htarget : builder.options.embedTarget? column = some table)
    (hmem : table ∈ builder.catalog.tables) (hpath : table ∉ path)
    (hplain : ∀ seen ∈ path, seen.catalog = "") :
    ∃ placed, builder.embedded? path column = some placed := by
  obtain ⟨target, hcolumn, rfl⟩ := Option.map_eq_some_iff.1 htarget
  have hunseen : ¬ (path.any fun seen =>
      seen.schema == (target.qualified builder.options.defaultSchema).schema &&
        seen.name == (target.qualified builder.options.defaultSchema).name) = true := by
    intro hseen
    obtain ⟨seen, hin, heq⟩ := List.any_eq_true.1 hseen
    simp only [Bool.and_eq_true, beq_iff_eq] at heq
    have : seen = target.tableIn builder.options.defaultSchema := by
      obtain ⟨catalog, schema, name⟩ := seen
      obtain rfl := hplain _ hin
      obtain ⟨rfl, rfl⟩ := heq
      rfl
    exact hpath (this ▸ hin)
  obtain ⟨placed, hplaced, hident⟩ := List.mem_map.1 (List.mem_toFinset.1 hmem)
  obtain ⟨found, hfound⟩ : ∃ found, builder.catalog.findTable?
      (target.qualified builder.options.defaultSchema) = some found := by
    rw [PlacedTable.ident, Identifier.tableIn, Identifier.mk.injEq] at hident
    refine Catalog.exists_findTable?_eq_some hplaced ?_ hident.2.2
    have hne : (target.qualified builder.options.defaultSchema).schema ≠ "" :=
      target.schemaOr_ne builder.options.defaultSchema_ne
    rw [Identifier.schemaOr_of_ne _ hne]
    exact hident.2.1
  refine ⟨found, ?_⟩
  simp only [embedded?, Option.bind_eq_bind, hcolumn, Option.bind_some, if_neg hunseen, hfound]

/-- A column embeds the table that it asks for when that is one of the catalog off the path. -/
theorem embedded?_ident_eq_some (hplain : ∀ seen ∈ path, seen.catalog = "") {table : Identifier} :
    (builder.embedded? path column).map PlacedTable.ident = some table ↔
      builder.options.embedTarget? column = some table ∧ table ∈ builder.catalog.tables ∧
        table ∉ path := by
  constructor
  · intro h
    obtain ⟨placed, hplaced, rfl⟩ := Option.map_eq_some_iff.1 h
    obtain ⟨hmem, hpath, htarget⟩ := embedded?_eq_some hplaced
    exact ⟨htarget, mem_tables hmem, hpath⟩
  · rintro ⟨htarget, hmem, hpath⟩
    obtain ⟨placed, hplaced⟩ := exists_embedded? htarget hmem hpath hplain
    obtain ⟨-, -, hident⟩ := embedded?_eq_some hplaced
    rw [hplaced, Option.map_some, ← hident]
    exact htarget

def embeddedFields (builder : Builder) (path : List Identifier) (column : Column) : List Field :=
  match builder.embedded? path column with
  | some placed =>
    builder.fields (placed.ident :: path)
      (builder.options.keptColumns placed.ident placed.table.columns)
  | none => []

/-- The field embeds what its column embeds inside the tables on the path, and holds the fields of
that row. -/
def Embeds (builder : Builder) (path : List Identifier) (field : Field) : Prop :=
  field.embedTable = (builder.embedded? path field.column).map PlacedTable.ident ∧
    field.embedFields = builder.embeddedFields path field.column

theorem exists_of_mem_nameApart {fields : List Field} {field : Field}
    (h : field ∈ nameApart fields) :
    ∃ original ∈ fields, ∃ name, { original with name := name } = field := by
  obtain ⟨i, hi⟩ := List.mem_iff_getElem?.1 h
  obtain ⟨original, name, horiginal, -, hfield⟩ := List.getElem?_zipWith_eq_some.1 hi
  exact ⟨original, List.mem_of_getElem? horiginal, name, hfield⟩

theorem exists_of_mem_fields {columns : List Column} {field : Field}
    (h : field ∈ builder.fields path columns) :
    ∃ column ∈ columns, ∃ name, { builder.columnField path column with name := name } = field := by
  rw [fields_eq_nameApart] at h
  obtain ⟨original, horiginal, name, rfl⟩ := exists_of_mem_nameApart h
  obtain ⟨column, hcolumn, rfl⟩ := List.mem_map.1 horiginal
  exact ⟨column, hcolumn, name, rfl⟩

/-- Every field built from columns embeds what its column embeds there, whatever its neighbours. -/
theorem embeds_of_mem_fields {columns : List Column} {field : Field}
    (h : field ∈ builder.fields path columns) : builder.Embeds path field := by
  obtain ⟨column, -, name, rfl⟩ := exists_of_mem_fields h
  unfold Embeds embeddedFields columnField
  cases hrow : builder.embedded? path column with
  | some placed => simp [Builder.field, hrow]
  | none => simp [Builder.field, hrow]

theorem embeds_of_mem_struct {field : Field} (h : field ∈ (builder.struct placed).fields) :
    builder.Embeds [placed.ident] field := by
  obtain ⟨built, hbuilt, rfl⟩ := List.mem_map.1 h
  have hembeds : builder.Embeds [placed.ident] built := embeds_of_mem_fields hbuilt
  exact hembeds

theorem Embeds.inner {outer field : Field} {table : Identifier} (houter : builder.Embeds path outer)
    (htable : outer.embedTable = some table) (h : field ∈ outer.embedFields) :
    builder.Embeds (table :: path) field := by
  obtain ⟨hembed, hfields⟩ := houter
  rw [htable, eq_comm, Option.map_eq_some_iff] at hembed
  obtain ⟨placed, hplaced, rfl⟩ := hembed
  rw [hfields, embeddedFields, hplaced] at h
  exact embeds_of_mem_fields h

/-- What holds of the path and the field wherever a field stands in the tree of a struct: the path
lists tables of the catalog, none twice, and the field embeds what its column embeds there. -/
structure Placed (builder : Builder) (path : List Identifier) (field : Field) : Prop where
  nodup : path.Nodup
  mem_tables : ∀ table ∈ path, table ∈ builder.catalog.tables
  plain : ∀ table ∈ path, table.catalog = ""
  embeds : builder.Embeds path field

theorem Placed.embedTable_eq_some {field : Field} (h : builder.Placed path field)
    {table : Identifier} : field.embedTable = some table ↔
      builder.options.embedTarget? field.column = some table ∧
        table ∈ builder.catalog.tables ∧ table ∉ path := by
  rw [h.embeds.1]
  exact embedded?_ident_eq_some h.plain

theorem Placed.embedFields_eq_nil {field : Field} (h : builder.Placed path field)
    (hnone : field.embedTable = none) : field.embedFields = [] := by
  obtain ⟨hembed, hfields⟩ := h.embeds
  rw [hnone, eq_comm, Option.map_eq_none_iff] at hembed
  rw [hfields, embeddedFields, hembed]

/-- One step into an embedded row keeps what holds of the path and the field. -/
theorem Placed.inner {outer field : Field} {table : Identifier} (houter : builder.Placed path outer)
    (htable : outer.embedTable = some table) (h : field ∈ outer.embedFields) :
    builder.Placed (table :: path) field := by
  obtain ⟨htarget, hmem, hpath⟩ := houter.embedTable_eq_some.1 htable
  refine ⟨List.nodup_cons.2 ⟨hpath, houter.nodup⟩, ?_, ?_, houter.embeds.inner htable h⟩
  · exact List.forall_mem_cons.2 ⟨hmem, houter.mem_tables⟩
  · refine List.forall_mem_cons.2 ⟨?_, houter.plain⟩
    obtain ⟨target, -, rfl⟩ := Option.map_eq_some_iff.1 htarget
    rfl

/-- Wherever a field stands in the tree of a struct, its path and what it embeds are in order. -/
theorem placed_of_holds (hplaced : placed ∈ builder.catalog.placedTables) {field : Field}
    (h : (builder.struct placed).Holds path field) : builder.Placed path field := by
  induction h with
  | top h =>
      refine ⟨List.nodup_singleton _, ?_, ?_, embeds_of_mem_struct h⟩
      · intro table htable
        rw [List.mem_singleton.1 htable]
        exact Builder.mem_tables hplaced
      · intro table htable
        rw [List.mem_singleton.1 htable]
        rfl
  | inner _ htable h ih => exact ih.inner htable h

/-- The tables around a field, and the one that it embeds, are different tables of the catalog. -/
theorem Placed.chain {field : Field} (h : builder.Placed path field) :
    (field.embedTable.toList ++ path).Nodup ∧
      (field.embedTable.toList ++ path).length ≤ builder.catalog.tables.card := by
  have hchain : (field.embedTable.toList ++ path).Nodup ∧
      ∀ table ∈ field.embedTable.toList ++ path, table ∈ builder.catalog.tables := by
    cases hembed : field.embedTable with
    | none => exact ⟨h.nodup, h.mem_tables⟩
    | some table =>
        obtain ⟨-, hmem, hpath⟩ := h.embedTable_eq_some.1 hembed
        exact ⟨List.nodup_cons.2 ⟨hpath, h.nodup⟩, List.forall_mem_cons.2 ⟨hmem, h.mem_tables⟩⟩
  refine ⟨hchain.1, ?_⟩
  rw [← List.toFinset_card_of_nodup hchain.1]
  exact Finset.card_le_card fun table htable => hchain.2 table (List.mem_toFinset.1 htable)

end Builder

/-- Embedding comes to an end for every catalog. Structs are built on every known engine, and
wherever a field stands in the tree of one, the tables around it and the one that it embeds are
different tables of the catalog, no more than it has. The field embeds a table exactly when its
column asks for that table, the catalog has it and it is not around the field already; a field that
embeds none has no fields of its own. -/
theorem embedding_finite (request : Request) (options : Options) (types : CustomTypes) :
    (request.settings.engine ∈ ["postgresql", "mysql", "sqlite"] →
      ∃ structs, request.structs options types = .ok structs) ∧
    ∀ structs, request.structs options types = .ok structs → ∀ struct ∈ structs,
      ∀ path field, struct.Holds path field →
        (field.embedTable.toList ++ path).Nodup ∧
        (field.embedTable.toList ++ path).length ≤ request.catalog.tables.card ∧
        (∀ table, field.embedTable = some table ↔
          options.embedTarget? field.column = some table ∧ table ∈ request.catalog.tables ∧
            table ∉ path) ∧
        (field.embedTable = none → field.embedFields = []) := by
  constructor
  · intro hengine
    obtain ⟨engine, hengine⟩ := Engine.exists_ofName hengine
    exact ⟨_, Request.structs_eq_ok.2 ⟨engine, hengine, rfl⟩⟩
  · intro structs hstructs struct hstruct path field hfield
    obtain ⟨engine, placed, hplaced, rfl⟩ := Request.exists_of_mem_structs hstructs hstruct
    have hfield := Builder.placed_of_holds hplaced hfield
    exact ⟨hfield.chain.1, hfield.chain.2, fun table => hfield.embedTable_eq_some,
      hfield.embedFields_eq_nil⟩

/-- Two tables whose rows embed each other, the first one touched by a query. -/
def mutualRequest : Request where
  settings := { engine := "sqlite" }
  catalog := {
    schemas := [{
      name := "public"
      tables := [
        { rel := { name := "authors" }
          columns := [{ name := "book", embedTable := some { name := "books" } }] },
        { rel := { name := "books" }
          columns := [{ name := "author", embedTable := some { name := "authors" } }] }] }] }
  queries := [{ name := "add", insertIntoTable := some { name := "authors" } }]

theorem embedding_stops_in_circle :
    ∃ structs, mutualRequest.structs plainOptions [] = .ok structs ∧ ∃ struct ∈ structs,
      ∃ path field, struct.Holds path field ∧ path.Nodup ∧ path.length = 2 ∧
        path.length ≤ mutualRequest.catalog.tables.card ∧
        (∃ target, field.column.embedTable = some target) ∧
        field.embedTable = none ∧ field.embedFields = [] := by
  have hshape : (mutualRequest.structs plainOptions []).toOption.map (·.map fun struct =>
      struct.fields.map fun outer => (outer.embedTable.isSome, outer.embedFields.map fun field =>
        (field.embedTable.isNone, field.column.embedTable.isSome))) =
      some [[(true, [(true, true)])]] := by
    decide +kernel
  obtain ⟨structs, hstructs⟩ := (embedding_finite mutualRequest plainOptions []).1 (by decide)
  rw [hstructs] at hshape
  simp only [Except.toOption, Option.map_some, Option.some.injEq, List.map_eq_singleton_iff,
    Prod.mk.injEq, Option.isSome_iff_exists, Option.isNone_iff_eq_none] at hshape
  obtain ⟨struct, rfl, outer, hfields, ⟨table, htable⟩, field, hinner, hnone, hasks⟩ := hshape
  have houter : struct.Holds [struct.table] outer := .top (hfields ▸ List.mem_singleton_self outer)
  have hfield := houter.inner htable (hinner ▸ List.mem_singleton_self field)
  obtain ⟨hnodup, hlength, -, hnil⟩ := (embedding_finite mutualRequest plainOptions []).2 _ hstructs
    struct (List.mem_singleton_self struct) _ field hfield
  rw [hnone] at hnodup hlength
  exact ⟨_, hstructs, struct, List.mem_singleton_self struct, _, field, hfield, hnodup, rfl,
    hlength, hasks, hnone, hnil hnone⟩

end LoaderGen

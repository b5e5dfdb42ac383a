import LoaderGen.Proofs.Model.Rows
import LoaderGen.Proofs.Text.Ascii

/-!
# Primary keys

The primary keys of a struct are the columns that the options list for its table. Where they list
none of the columns kept, the keys are those that a table has by convention: columns that hold a
value of their own, are declared never to be null, and are called `id`. What counts is the column's
name as an identifier, not the field's, which can have a number. Rows that fields embed have no
keys, and a struct has a loader's key when it has exactly one.
-/

namespace LoaderGen

namespace Options

/-- The field is a key where no column of the table is listed. -/
structure IsKeyByConvention (options : Options) (field : Field) : Prop where
  plain : field.embedTable = none
  /-- An array is no exception, although it is never null. -/
  notNull : field.column.notNull = true
  named : options.fieldName field.column.name ∈ ["id", "iD", "Id", "ID"]

end Options

namespace Text

theorem eqIgnoringAsciiCase_id {name : String} :
    eqIgnoringAsciiCase name "id" = true ↔ name ∈ ["id", "iD", "Id", "ID"] := by
  have hletters : eqIgnoringAsciiCase name "id" = true ↔
      name.toList.map Char.toLower = ['i', 'd'] := by
    rw [eqIgnoringAsciiCase, beq_iff_eq]
    exact Iff.rfl
  rw [hletters]
  constructor
  · intro h
    obtain ⟨first, rest, hname, hfirst, hrest⟩ := List.map_eq_cons_iff.1 h
    obtain ⟨second, rest, rfl, hsecond, hrest⟩ := List.map_eq_cons_iff.1 hrest
    obtain rfl := List.map_eq_nil_iff.1 hrest
    obtain rfl : name = String.ofList [first, second] := by rw [← hname, String.ofList_toList]
    rcases (toLower_eq_iff 'i' 'I' (by decide) (by decide) rfl).1 hfirst with rfl | rfl <;>
      rcases (toLower_eq_iff 'd' 'D' (by decide) (by decide) rfl).1 hsecond with rfl | rfl <;> decide
  · intro h
    simp only [List.mem_cons, List.not_mem_nil, or_false] at h
    rcases h with rfl | rfl | rfl | rfl <;> decide

end Text

namespace Builder

variable {builder : Builder} {path : List Identifier} {placed : PlacedTable} {row : List Field}

theorem isKeyByConvention_iff {options : Options} {field : Field}
    (hname : field.dbName = field.column.name) :
    isKeyByConvention options field = true ↔ options.IsKeyByConvention field := by
  rw [isKeyByConvention, conventionalKey, Bool.and_eq_true, Bool.and_eq_true,
    Text.eqIgnoringAsciiCase_id, hname]
  constructor
  · rintro ⟨⟨hplain, hnull⟩, hnamed⟩
    exact ⟨by simpa [Field.isEmbedded] using hplain, hnull, hnamed⟩
  · intro h
    exact ⟨⟨by simpa [Field.isEmbedded] using h.plain, h.notNull⟩, h.named⟩

theorem isPrimaryKey_of_mem_fields {columns : List Column} {field : Field}
    (h : field ∈ builder.fields path columns) : field.isPrimaryKey = false := by
  obtain ⟨column, -, name, rfl⟩ := exists_of_mem_fields h
  unfold columnField
  split <;> rfl

/-- Keys are marked in a struct's own row, after it is built. -/
theorem Embeds.isPrimaryKey_inner {outer inner : Field} (h : builder.Embeds path outer)
    (hinner : inner ∈ outer.embedFields) : inner.isPrimaryKey = false := by
  rw [h.2, embeddedFields] at hinner
  split at hinner
  · exact isPrimaryKey_of_mem_fields hinner
  · cases hinner

/-- What marks a field of a struct can be read off the fields after marking. -/
theorem isPrimaryKey_of_mem_struct {field : Field} (h : field ∈ (builder.struct placed).fields) :
    field.isPrimaryKey =
      if (builder.struct placed).fields.any fun other =>
          builder.options.lists builder.options.primaryKeysColumns placed.ident other.dbName
      then builder.options.lists builder.options.primaryKeysColumns placed.ident field.dbName
      else isKeyByConvention builder.options field := by
  obtain ⟨built, -, rfl⟩ := List.mem_map.1 h
  simp only [struct, markKeys, List.any_map]
  dsimp only [Function.comp_def]
  split <;> rfl

section Struct

variable (builder) (hschema : placed.ident.schema ≠ "")
include hschema

theorem any_listed_iff :
    ((builder.struct placed).fields.any fun field =>
        builder.options.lists builder.options.primaryKeysColumns placed.ident field.dbName) = true ↔
      ∃ field ∈ (builder.struct placed).fields, builder.options.Listed
        builder.options.primaryKeysColumns placed.ident field.column.name := by
  rw [List.any_eq_true]
  refine exists_congr fun field => and_congr_right fun hfield => ?_
  rw [Options.lists_iff hschema, (isRow_struct builder placed).dbName field hfield]

theorem isPrimaryKey_of_listed {listed field : Field}
    (hlisted : listed ∈ (builder.struct placed).fields)
    (hnames : builder.options.Listed builder.options.primaryKeysColumns placed.ident
      listed.column.name)
    (hfield : field ∈ (builder.struct placed).fields) :
    field.isPrimaryKey = true ↔ builder.options.Listed builder.options.primaryKeysColumns
      placed.ident field.column.name := by
  have hany := (any_listed_iff builder hschema).2 ⟨listed, hlisted, hnames⟩
  rw [isPrimaryKey_of_mem_struct hfield, if_pos hany, Options.lists_iff hschema,
    (isRow_struct builder placed).dbName field hfield]

theorem isPrimaryKey_of_unlisted {field : Field}
    (hnone : ∀ field ∈ (builder.struct placed).fields, ¬ builder.options.Listed
      builder.options.primaryKeysColumns placed.ident field.column.name)
    (hfield : field ∈ (builder.struct placed).fields) :
    field.isPrimaryKey = true ↔ builder.options.IsKeyByConvention field := by
  have hany := mt (any_listed_iff builder hschema).1 fun ⟨listed, hlisted, hnames⟩ =>
    hnone listed hlisted hnames
  rw [isPrimaryKey_of_mem_struct hfield, if_neg hany]
  exact isKeyByConvention_iff ((isRow_struct builder placed).dbName field hfield)

end Struct

end Builder

namespace Struct

theorem primaryKey?_eq_some_iff {struct : Struct} {key : Field} :
    struct.primaryKey? = some key ↔
      struct.isLoadable = true ∧ key ∈ struct.fields ∧ key.isPrimaryKey = true := by
  rw [← List.mem_filter, isLoadable, Option.isSome_iff_exists]
  constructor
  · intro h
    refine ⟨⟨key, h⟩, ?_⟩
    rw [← primaryKeys, primaryKey?_eq_some.1 h]
    exact List.mem_singleton_self key
  · rintro ⟨⟨found, hfound⟩, hkey⟩
    rw [← primaryKeys, primaryKey?_eq_some.1 hfound, List.mem_singleton] at hkey
    rw [hfound, hkey]

end Struct

/-- The keys of a struct are exactly the columns listed for its table, and where none of those kept
is listed, exactly the columns that are keys by convention. No field of an embedded row is a key,
at any depth. A loader can be made when there is one key, and then that is the struct's. -/
theorem primary_keys_designated {request : Request} {options : Options} {types : CustomTypes}
    {structs : List Struct} (h : request.structs options types = .ok structs) {struct : Struct}
    (hstruct : struct ∈ structs) :
    ((∃ field ∈ struct.fields,
        options.Listed options.primaryKeysColumns struct.table field.column.name) →
      ∀ field ∈ struct.fields, field.isPrimaryKey = true ↔
        options.Listed options.primaryKeysColumns struct.table field.column.name) ∧
    ((∀ field ∈ struct.fields,
        ¬ options.Listed options.primaryKeysColumns struct.table field.column.name) →
      ∀ field ∈ struct.fields, field.isPrimaryKey = true ↔ options.IsKeyByConvention field) ∧
    (∀ row, struct.HasRow row → ∀ outer ∈ row, ∀ inner ∈ outer.embedFields,
      inner.isPrimaryKey = false) ∧
    (struct.isLoadable = true ↔ struct.fields.countP Field.isPrimaryKey = 1) ∧
    ∀ key, struct.primaryKey? = some key ↔
      struct.isLoadable = true ∧ key ∈ struct.fields ∧ key.isPrimaryKey = true := by
  obtain ⟨engine, -, rfl⟩ := Request.structs_eq_ok.1 h
  obtain ⟨placed, hplaced, rfl⟩ := List.mem_map.1 hstruct
  obtain ⟨-, -, hreached⟩ := Request.mem_structTables.1 hplaced
  have hschema := hreached.schema_ne
  refine ⟨?_, ?_, ?_, Struct.isLoadable_iff, fun key => Struct.primaryKey?_eq_some_iff⟩
  · rintro ⟨listed, hlisted, hnames⟩ field hfield
    exact (request.builder options types engine).isPrimaryKey_of_listed hschema hlisted hnames
      hfield
  · intro hnone field hfield
    exact (request.builder options types engine).isPrimaryKey_of_unlisted hschema hnone hfield
  · intro row hrow outer houter inner hinner
    obtain ⟨path, hpath⟩ := Builder.exists_isRow_of_hasRow hrow
    exact (hpath.embeds outer houter).isPrimaryKey_inner hinner

/-- Authors have an id and a name, and books an id, the row of their author, and an id that can be
null. -/
def authoredRequest : Request where
  settings := { engine := "sqlite" }
  catalog := {
    schemas := [{
      name := "public"
      tables := [
        { rel := { name := "authors" }
          columns := [{ name := "id", notNull := true }, { name := "name" }] },
        { rel := { name := "books" }
          columns := [{ name := "id", notNull := true },
            { name := "author", notNull := true, embedTable := some { name := "authors" } },
            { name := "_id" }] }] }] }
  queries := ["authors", "books"].map fun name => insertQuery { name := name }

def keyedByName : Options := { plainOptions with primaryKeysColumns := ["authors.name"] }

/-- Authors have the key listed for them and not their id. No column of books is listed, so the id
that cannot be null is their key, and the ids of their authors are none. -/
theorem keys_of_authors_and_books :
    ∃ authors books, authoredRequest.structs keyedByName [] = .ok [authors, books] ∧
      authors.fields.map (fun field => (field.name, field.isPrimaryKey)) =
        [("ID", false), ("Name", true)] ∧
      (∃ field ∈ authors.fields,
        keyedByName.Listed keyedByName.primaryKeysColumns authors.table field.column.name) ∧
      (∀ field ∈ authors.fields, field.isPrimaryKey = true ↔
        keyedByName.Listed keyedByName.primaryKeysColumns authors.table field.column.name) ∧
      books.fields.map (fun field => (field.name, field.isPrimaryKey)) =
        [("ID", true), ("Author", false), ("ID2", false)] ∧
      (∀ field ∈ books.fields,
        ¬ keyedByName.Listed keyedByName.primaryKeysColumns books.table field.column.name) ∧
      (∀ field ∈ books.fields, field.isPrimaryKey = true ↔ keyedByName.IsKeyByConvention field) ∧
      (∀ outer ∈ books.fields, ∀ inner ∈ outer.embedFields, inner.isPrimaryKey = false) ∧
      books.isLoadable = true := by
  have hrun : (authoredRequest.structs keyedByName []).toOption.map (·.map fun struct =>
      (struct.table, struct.fields.map fun field =>
        (field.column.name, field.name, field.isPrimaryKey))) =
      some [({ schema := "public", name := "authors" }, [("id", "ID", false),
          ("name", "Name", true)]),
        ({ schema := "public", name := "books" }, [("id", "ID", true), ("author", "Author", false),
          ("_id", "ID2", false)])] := by
    decide +kernel
  obtain ⟨structs, hrun, hshown⟩ := Option.map_eq_some_iff.1 hrun
  have hstructs := toOption_eq_some.1 hrun
  obtain ⟨authors, rest, rfl, hauthors, hrest⟩ := List.map_eq_cons_iff.1 hshown
  obtain ⟨books, rfl, hbooks⟩ := List.map_eq_singleton_iff.1 hrest
  obtain ⟨hauthorsTable, hauthorsFields⟩ := Prod.mk.inj hauthors
  obtain ⟨hbooksTable, hbooksFields⟩ := Prod.mk.inj hbooks
  have hlisted : ∃ field ∈ authors.fields, keyedByName.Listed keyedByName.primaryKeysColumns
      authors.table field.column.name := by
    have hname : ("name", "Name", true) ∈ authors.fields.map fun field =>
        (field.column.name, field.name, field.isPrimaryKey) := by
      rw [hauthorsFields]
      simp
    obtain ⟨field, hfield, hshown⟩ := List.mem_map.1 hname
    refine ⟨field, hfield, ?_⟩
    rw [hauthorsTable, (Prod.mk.inj hshown).1]
    decide +kernel
  have hnone : ∀ field ∈ books.fields, ¬ keyedByName.Listed keyedByName.primaryKeysColumns
      books.table field.column.name := by
    have hall : ∀ shown ∈ books.fields.map fun field =>
        (field.column.name, field.name, field.isPrimaryKey),
        ¬ keyedByName.Listed keyedByName.primaryKeysColumns books.table shown.1 := by
      rw [hbooksFields, hbooksTable]
      decide +kernel
    exact fun field hfield => hall _ (List.mem_map_of_mem hfield)
  obtain ⟨hkeys, -, -, -, -⟩ := primary_keys_designated hstructs List.mem_cons_self
  obtain ⟨-, hconvention, hembedded, hloadable, -⟩ := primary_keys_designated hstructs
    (List.mem_cons_of_mem _ (List.mem_singleton_self books))
  have hauthorsKeys := congrArg (List.map Prod.snd) hauthorsFields
  have hbooksKeys := congrArg (List.map Prod.snd) hbooksFields
  rw [List.map_map] at hauthorsKeys hbooksKeys
  refine ⟨authors, books, hstructs, hauthorsKeys, hlisted, hkeys hlisted, hbooksKeys, hnone,
    hconvention hnone, hembedded _ .own, hloadable.2 ?_⟩
  have hcount := congrArg (List.countP Prod.snd) hbooksKeys
  rw [List.countP_map] at hcount
  exact hcount

end LoaderGen

import LoaderGen.Proofs.Value.Fields
import LoaderGen.Schema.Encoding

/-!
# Requests read back

What is written of a request is read back as the same request, and so is every part of it, also
where the members of records have been put in another order in between. The proof goes from the
names outwards: a type is read back once the types of its fields are. No part leaves a trace of what
it leaves out, neither null nor an empty text or list in its place.
-/

namespace LoaderGen

open Value

/-- The names of the fields that are left out when they are empty. A catalog's own name is left out
as well, but under a name that other types always write. -/
def omittable : List String :=
  ["catalog", "schema", "original_name", "comment", "table", "type", "embed_table", "filename",
    "comments", "insert_into_table", "column", "version", "sqlc_version", "plugin_options",
    "global_options"]

variable (way : MemberOrder)

namespace Identifier

theorem inverts : Inverts way ofValue? toValue := by
  intro ident
  simp only [ofValue?, toValue, List.append_assoc]
  apply read_record
  · decide
  · exact .append among_unlessEmpty <| .append among_unlessEmpty among_nil.cons
  · intro members h
    simp [h.required, h.orElse, List.lookup_append, List.lookup_cons, inverts_text way _]

theorem isVoid_toValue (ident : Identifier) : ident.toValue.isVoid = false :=
  rfl

theorem isTrim_toValue (ident : Identifier) : isTrim omittable ident.toValue = true := by
  simp +decide [toValue, isTrim, membersTrim]

end Identifier

namespace Column

theorem inverts : Inverts way ofValue? toValue := by
  intro column
  simp only [ofValue?, toValue, List.append_assoc, List.cons_append, List.nil_append]
  apply read_record
  · decide
  · -- The part of each name stands where the name does; `cons` is for the parts always written.
    have hidents : Fields.Among
        (whenSome "table" Identifier.toValue column.table ++
          (whenSome "type" Identifier.toValue column.type ++
            whenSome "embed_table" Identifier.toValue column.embedTable))
        ["table", "type", "embed_table"] :=
      .append among_whenSome (.append among_whenSome among_whenSome)
    exact .cons <| .append among_unlessEmpty <| .cons <| .cons <| .cons <| .cons <| .cons <|
      .cons <| .append among_unlessEmpty hidents
  · intro members h
    have hidents := elim_whenSome (Identifier.inverts way) Identifier.isVoid_toValue
    simp [h.required, h.orElse, List.lookup_append, List.lookup_cons, inverts_text way _,
      inverts_bool way _, inverts_word32 way _, inverts_int32 way _, hidents]

theorem isVoid_toValue (column : Column) : column.toValue.isVoid = false :=
  rfl

theorem isTrim_toValue (column : Column) : isTrim omittable column.toValue = true := by
  have hidents : ∀ name ident,
      membersTrim omittable (whenSome name Identifier.toValue ident) = true := by
    intro name ident
    exact membersTrim_whenSome Identifier.isVoid_toValue Identifier.isTrim_toValue ident
  simp +decide [toValue, isTrim, membersTrim, hidents]

end Column

theorem Table.inverts : Inverts way ofValue? toValue := by
  intro table
  simp only [ofValue?, toValue, List.cons_append, List.nil_append]
  apply read_record
  · decide
  · exact .cons <| .cons among_unlessEmpty
  · intro members h
    have hcolumns := (Column.inverts way).listOf table.columns
    simp [h.required, h.orElse, List.lookup_cons, Identifier.inverts way _, hcolumns]

theorem Table.isTrim_toValue (table : Table) : isTrim omittable table.toValue = true := by
  have hcolumns := areTrim_map Column.isTrim_toValue table.columns
  simp +decide [toValue, isTrim, membersTrim, Identifier.isTrim_toValue, hcolumns]

theorem Enum.inverts : Inverts way ofValue? toValue := by
  intro enum
  simp only [ofValue?, toValue, List.cons_append, List.nil_append]
  apply read_record
  · decide
  · exact .cons <| .cons among_unlessEmpty
  · intro members h
    have hvals := (inverts_text way).listOf enum.vals
    simp [h.required, h.orElse, List.lookup_cons, inverts_text way _, hvals]

theorem Enum.isTrim_toValue (enum : Enum) : isTrim omittable enum.toValue = true := by
  have hvals := areTrim_map (isTrim_text omittable) enum.vals
  simp +decide [toValue, isTrim, membersTrim, hvals]

theorem CompositeType.inverts : Inverts way ofValue? toValue := by
  intro type
  simp only [ofValue?, toValue, List.cons_append, List.nil_append]
  apply read_record
  · decide
  · exact .cons among_unlessEmpty
  · intro members h
    simp [h.required, h.orElse, List.lookup_cons, inverts_text way _]

theorem CompositeType.isTrim_toValue (type : CompositeType) :
    isTrim omittable type.toValue = true := by
  simp +decide [toValue, isTrim, membersTrim]

theorem Schema.inverts : Inverts way ofValue? toValue := by
  intro schema
  simp only [ofValue?, toValue, List.cons_append, List.nil_append]
  apply read_record
  · decide
  · exact .cons <| .append among_unlessEmpty <| .cons <| .cons <| .cons among_nil
  · intro members h
    have htables := (Table.inverts way).listOf schema.tables
    have henums := (Enum.inverts way).listOf schema.enums
    have htypes := (CompositeType.inverts way).listOf schema.compositeTypes
    simp [h.required, h.orElse, List.lookup_append, List.lookup_cons, inverts_text way _, htables,
      henums, htypes]

theorem Schema.isTrim_toValue (schema : Schema) : isTrim omittable schema.toValue = true := by
  have htables := areTrim_map Table.isTrim_toValue schema.tables
  have henums := areTrim_map Enum.isTrim_toValue schema.enums
  have htypes := areTrim_map CompositeType.isTrim_toValue schema.compositeTypes
  simp +decide [toValue, isTrim, membersTrim, htables, henums, htypes]

theorem Catalog.inverts : Inverts way ofValue? toValue := by
  intro catalog
  simp only [ofValue?, toValue, List.append_assoc, List.cons_append, List.nil_append]
  apply read_record
  · decide
  · exact .cons <| .append among_unlessEmpty <| .append among_unlessEmpty among_nil.cons
  · intro members h
    have hschemas := (Schema.inverts way).listOf catalog.schemas
    simp [h.orElse, List.lookup_append, List.lookup_cons, inverts_text way _, hschemas]

theorem Catalog.isTrim_toValue (catalog : Catalog) : isTrim omittable catalog.toValue = true := by
  have hschemas := areTrim_map Schema.isTrim_toValue catalog.schemas
  simp +decide [toValue, isTrim, membersTrim, hschemas]

theorem Catalog.name_toValue_ne (catalog : Catalog) :
    catalog.toValue.member? "name" ≠ some (text "") := by
  have hname : catalog.toValue.member? "name" =
      (unlessEmpty "name" catalog.name).lookup "name" := by
    simp [toValue, member?, List.lookup_append, List.lookup_cons]
  rw [hname]
  exact lookup_unlessEmpty_ne "name" catalog.name

theorem Parameter.inverts : Inverts way ofValue? toValue := by
  intro parameter
  simp only [ofValue?, toValue, List.cons_append, List.nil_append]
  apply read_record
  · decide
  · exact .cons among_whenSome
  · intro members h
    have hcolumn := elim_whenSome (Column.inverts way) Column.isVoid_toValue
    simp [h.orElse, List.lookup_cons, inverts_int32 way _, hcolumn]

theorem Parameter.isTrim_toValue (parameter : Parameter) :
    isTrim omittable parameter.toValue = true := by
  have hcolumn : membersTrim omittable (whenSome "column" Column.toValue parameter.column) = true :=
    membersTrim_whenSome Column.isVoid_toValue Column.isTrim_toValue parameter.column
  simp +decide [toValue, isTrim, membersTrim, hcolumn]

theorem Query.inverts : Inverts way ofValue? toValue := by
  intro query
  simp only [ofValue?, toValue, List.append_assoc, List.cons_append, List.nil_append]
  apply read_record
  · decide
  · exact .cons <| .cons <| .cons <| .append among_unlessEmpty <| .cons <| .cons <|
      .append among_unlessNil among_whenSome
  · intro members h
    have hcolumns := (Column.inverts way).listOf query.columns
    have hparams := (Parameter.inverts way).listOf query.params
    have hcomments := elim_unlessNil (inverts_text way)
    have htable := elim_whenSome (Identifier.inverts way) Identifier.isVoid_toValue
    simp [h.required, h.orElse, List.lookup_append, List.lookup_cons, inverts_text way _, hcolumns,
      hparams, hcomments, htable]

theorem Query.isTrim_toValue (query : Query) : isTrim omittable query.toValue = true := by
  have hcolumns := areTrim_map Column.isTrim_toValue query.columns
  have hparams := areTrim_map Parameter.isTrim_toValue query.params
  have hcomments : membersTrim omittable (unlessNil "comments" Value.text query.comments) = true :=
    membersTrim_unlessNil (isTrim_text omittable) query.comments
  have htable : membersTrim omittable
      (whenSome "insert_into_table" Identifier.toValue query.insertIntoTable) = true :=
    membersTrim_whenSome Identifier.isVoid_toValue Identifier.isTrim_toValue query.insertIntoTable
  simp +decide [toValue, isTrim, membersTrim, hcolumns, hparams, hcomments, htable]

theorem Settings.inverts : Inverts way ofValue? toValue := by
  intro settings
  simp only [ofValue?, toValue, List.cons_append, List.nil_append]
  apply read_record
  · decide
  · exact .cons among_unlessEmpty
  · intro members h
    simp [h.orElse, List.lookup_cons, inverts_text way _]

theorem Settings.isTrim_toValue (settings : Settings) :
    isTrim omittable settings.toValue = true := by
  simp +decide [toValue, isTrim, membersTrim]

theorem Request.inverts : Inverts way ofValue? toValue := by
  intro request
  simp only [ofValue?, toValue, List.append_assoc, List.cons_append, List.nil_append]
  apply read_record
  · decide
  · exact .cons <| .cons <| .cons <| .append among_unlessEmpty <|
      .append among_unlessNil among_unlessNil
  · intro members h
    have hqueries := (Query.inverts way).listOf request.queries
    have hbytes := elim_unlessNil (inverts_byte way)
    simp [h.orElse, List.lookup_append, List.lookup_cons, Settings.inverts way _,
      Catalog.inverts way _, hqueries, hbytes]

theorem Request.isTrim_toValue (request : Request) : isTrim omittable request.toValue = true := by
  have hqueries := areTrim_map Query.isTrim_toValue request.queries
  have hbytes : ∀ name bytes, membersTrim omittable
      (unlessNil name (fun b : UInt8 => int b.toNat) bytes) = true := by
    intro name bytes
    exact membersTrim_unlessNil (fun _ => rfl) bytes
  have hcatalog : request.catalog.toValue.isVoid = false := rfl
  simp +decide [toValue, isTrim, membersTrim, Settings.isTrim_toValue, Catalog.isTrim_toValue,
    hcatalog, hqueries, hbytes]

/-- Every request comes back from its encoding as it was, in whatever order the members of records
are listed then. The encoding has nothing in it for what is empty where that is left out: no null,
no empty text and no empty list. -/
theorem request_round_trip (request : Request) :
    Request.ofValue? request.toValue = some request ∧
    (∀ way, Request.ofValue? (arrange way request.toValue) = some request) ∧
    isTrim omittable request.toValue = true ∧
    (request.toValue.member? "catalog").bind (Value.member? "name") ≠ some (text "") := by
  have hread : ∀ way, Request.ofValue? (arrange way request.toValue) = some request := by
    intro way
    exact Request.inverts way request
  have hplain : Request.ofValue? request.toValue = some request := by
    have hlisted := hread .asListed
    rwa [arrange_asListed] at hlisted
  have hname : (request.toValue.member? "catalog").bind (Value.member? "name") ≠
      some (text "") := by
    show request.catalog.toValue.member? "name" ≠ some (text "")
    exact request.catalog.name_toValue_ne
  exact ⟨hplain, hread, request.isTrim_toValue, hname⟩

end LoaderGen

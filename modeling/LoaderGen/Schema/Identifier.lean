import LoaderGen.Ascending

/-!
# Names of the catalog

A table or a type is named within a schema, which can be left out and then means the default one.
-/

namespace LoaderGen

/-- A name of the catalog, in a schema unless that is empty. -/
structure Identifier where
  catalog : String := ""
  schema : String := ""
  name : String := ""
  deriving DecidableEq, Repr, Inhabited

namespace Identifier

/-- The name as it is written: after its schema and a point, unless the schema is empty. -/
def toText (ident : Identifier) : String :=
  if ident.schema.isEmpty then ident.name else ident.schema ++ "." ++ ident.name

/-- The schema, an empty one being read as the given one. -/
def schemaOr (ident : Identifier) (default : String) : String :=
  if ident.schema.isEmpty then default else ident.schema

/-- The same name with its schema spelled out. -/
def qualified (ident : Identifier) (default : String) : Identifier :=
  { ident with schema := ident.schemaOr default }

/-- The table meant by the name, by its schema and without a catalog. -/
def tableIn (ident : Identifier) (default : String) : Identifier :=
  { schema := ident.schemaOr default, name := ident.name }

theorem schemaOr_of_ne {ident : Identifier} (default : String) (h : ident.schema ≠ "") :
    ident.schemaOr default = ident.schema := by
  simp [schemaOr, h]

theorem schemaOr_ne (ident : Identifier) {default : String} (h : default ≠ "") :
    ident.schemaOr default ≠ "" := by
  unfold schemaOr
  split
  · exact h
  · next named => simpa using named

/-- The catalog, the schema and the name, by which names are ordered in turn. -/
def parts (ident : Identifier) : List String := [ident.catalog, ident.schema, ident.name]

theorem eq_of_parts_eq (ident other : Identifier) (h : ident.parts = other.parts) :
    ident = other := by
  cases ident
  cases other
  simpa [parts] using h

/-- The names in order, none twice. -/
def sorted (idents : List Identifier) : List Identifier := idents.foldr (insertAscending parts) []

theorem mem_sorted {ident : Identifier} {idents : List Identifier} :
    ident ∈ sorted idents ↔ ident ∈ idents := by
  induction idents with
  | nil => exact Iff.rfl
  | cons head rest ih =>
      rw [sorted, List.foldr_cons, mem_insertAscending eq_of_parts_eq, List.mem_cons]
      exact or_congr_right ih

end Identifier

/-- The schema meant when neither the catalog nor the options name one. -/
def fallbackSchema : String := "public"

/-- The schema belongs to the database itself, and holds no tables or types of the user. -/
def isReservedSchema (schema : String) : Bool :=
  schema == "pg_catalog" || schema == "information_schema"

end LoaderGen

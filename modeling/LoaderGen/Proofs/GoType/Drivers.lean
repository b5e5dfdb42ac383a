import LoaderGen.Proofs.CustomTypes
import LoaderGen.Proofs.GoType.Imports
import LoaderGen.Proofs.GoType.NullPointers

/-!
# Types of PostgreSQL by driver

What the engine's map makes of a column of PostgreSQL depends on the driver in two ways. Only the pgx
drivers have pointers for null values, and only where the options ask for them, except for network
addresses, which are pointers under the newest pgx driver even unasked. And nothing that is built in
is imported from the package of another driver's own types. Both are read off the table of built-in
types: no specification in it is that of a pointer, so that its rules alone say where one is made,
and what a row has under a driver is written for that driver.
-/

namespace LoaderGen

/-! ### Rules -/

namespace TypeRule

variable {rule : TypeRule} {driver : Driver} {neverNull nullPointers : Bool}

/-- The rule is written with specifications for the driver, and those that get a star with elements
that can have one. -/
def Follows (driver : Driver) : TypeRule → Prop
  | fixed spec => driver.Allows spec
  | orNull base null => driver.AllowsFront base ∧ driver.Allows null
  | orPointer base => driver.AllowsFront base
  | asPointer base => driver.AllowsFront base

/-- Whether the rule makes a pointer of values that are never null, or that can be. -/
def points (neverNull nullPointers : Bool) : TypeRule → Bool
  | fixed _ => false
  | orNull _ _ => !neverNull && nullPointers
  | orPointer _ => !neverNull
  | asPointer _ => nullPointers

private theorem eq_withPointer {type : GoType} {pointer : Bool} (h : type.pointer = pointer) :
    type = { type with pointer := pointer } := by
  rw [← h]

/-- What a rule comes down to is a specification for the driver, as a pointer where the rule makes
one. -/
theorem Follows.resolve_eq (h : rule.Follows driver) (neverNull nullPointers : Bool) :
    ∃ spec, driver.Allows spec ∧ rule.resolve neverNull nullPointers =
      { GoType.parse spec with pointer := rule.points neverNull nullPointers } := by
  have hplain : ∀ {base : String}, driver.AllowsFront base →
      GoType.parse base = { GoType.parse base with pointer := false } :=
    fun hbase => eq_withPointer hbase.allows.noPointer
  cases rule with
  | fixed spec => exact ⟨spec, h, eq_withPointer h.noPointer⟩
  | orNull base null =>
      obtain ⟨hbase, hnull⟩ := h
      cases neverNull with
      | true => exact ⟨base, hbase.allows, hplain hbase⟩
      | false =>
          cases nullPointers with
          | true => exact ⟨base, hbase.allows, hbase.isElement.parse_star⟩
          | false => exact ⟨null, hnull, eq_withPointer hnull.noPointer⟩
  | orPointer base =>
      have hbase : driver.AllowsFront base := h
      cases neverNull with
      | true => exact ⟨base, hbase.allows, hplain hbase⟩
      | false => exact ⟨base, hbase.allows, hbase.isElement.parse_star⟩
  | asPointer base =>
      have hbase : driver.AllowsFront base := h
      cases nullPointers with
      | true => exact ⟨base, hbase.allows, hbase.isElement.parse_star⟩
      | false => exact ⟨base, hbase.allows, hplain hbase⟩

theorem Follows.pointer_resolve (h : rule.Follows driver) (neverNull nullPointers : Bool) :
    (rule.resolve neverNull nullPointers).pointer = rule.points neverNull nullPointers := by
  obtain ⟨spec, -, hresolve⟩ := h.resolve_eq neverNull nullPointers
  rw [hresolve]

theorem Follows.isOwn_resolve (h : rule.Follows driver) {imp : Import}
    (himp : (rule.resolve neverNull nullPointers).source = some imp) {other : Driver}
    (hunder : imp.IsUnder other.typesRoot) : other = driver := by
  obtain ⟨spec, hspec, hresolve⟩ := h.resolve_eq neverNull nullPointers
  rw [hresolve] at himp
  dsimp only at himp
  exact hspec.isOwn imp himp other hunder

/-- The rule makes a pointer of null values even where they are not to be pointers. -/
def PointsUnasked : TypeRule → Prop
  | orPointer _ => True
  | _ => False

instance : DecidablePred PointsUnasked
  | orPointer _ => isTrue trivial
  | fixed _ | orNull _ _ | asPointer _ => isFalse id

theorem asked_or_unasked_of_points (h : rule.points neverNull nullPointers = true) :
    nullPointers = true ∨ neverNull = false ∧ rule.PointsUnasked := by
  cases rule with
  | fixed spec => cases h
  | orNull base null => exact .inl (Bool.and_eq_true_iff.1 h).2
  | orPointer base => exact .inr ⟨by simpa [points] using h, trivial⟩
  | asPointer base => exact .inl h

theorem PointsUnasked.points_eq (h : rule.PointsUnasked) (nullPointers : Bool) :
    rule.points false nullPointers = true := by
  cases rule with
  | orPointer base => rfl
  | fixed spec => cases h
  | orNull base null => cases h
  | asPointer base => cases h

end TypeRule

/-! ### The table of built-in types -/

namespace Postgres

/-- How the specifications of the driver's own types begin. -/
def ownFront : Driver → String
  | .libPq => "github.com/sqlc-dev/pqtype."
  | .pgxV4 => "github.com/jackc/pgtype."
  | .pgxV5 => "github.com/jackc/pgx/v5/pgtype."

/-- How those begin that are no driver's own, most of them to the end. -/
def sharedFronts : List String := [
  "database/sql.", "int32", "int64", "int16", "float64", "float32", "string", "bool",
  "encoding/json.RawMessage", "time.Time", "github.com/google/uuid.UUID",
  "github.com/google/uuid.NullUUID", "net/netip.Addr", "net/netip.Prefix", "net.HardwareAddr",
  "github.com/pgvector/pgvector-go.Vector", anyType]

private theorem allowsFront_fronts : ∀ driver : Driver, driver.AllowsFront (ownFront driver) ∧
    ∀ front ∈ sharedFronts, driver.AllowsFront front := by
  decide +kernel

theorem allows_pgtypeV5 (name : String) : Driver.pgxV5.Allows (pgtypeV5 name) :=
  (allowsFront_fronts .pgxV5).1.allows_append name

theorem allows_pgtypeV4 (name : String) : Driver.pgxV4.Allows (pgtypeV4 name) :=
  (allowsFront_fronts .pgxV4).1.allows_append name

theorem allows_pqtype (name : String) : Driver.libPq.Allows (pqtype name) :=
  (allowsFront_fronts .libPq).1.allows_append name

theorem allowsFront_of_mem {front : String} (h : front ∈ sharedFronts) (driver : Driver) :
    driver.AllowsFront front :=
  (allowsFront_fronts driver).2 front h

theorem allows_sqlNull (name : String) (driver : Driver) : driver.Allows (sqlNull name) :=
  (allowsFront_of_mem List.mem_cons_self driver).allows_append name

theorem allows_bytes (driver : Driver) : driver.Allows "[]byte" := by
  have hparse : GoType.parse "[]byte" = { name := "byte", sliceDims := 1 } := by decide
  refine ⟨by rw [hparse], fun imp himp => ?_⟩
  rw [hparse] at himp
  cases himp

/-- What the row has under a driver is written for it. -/
def Entry.Follows (entry : Entry) : Prop :=
  ∀ driver rule, entry.under driver = some rule → rule.Follows driver

variable {base : String}

theorem Entry.follows_mk {libPq pgxV4 pgxV5 : TypeRule} (hlibPq : libPq.Follows .libPq)
    (hpgxV4 : pgxV4.Follows .pgxV4) (hpgxV5 : pgxV5.Follows .pgxV5) :
    Entry.Follows ⟨some libPq, some pgxV4, some pgxV5⟩ := by
  intro driver rule hrule
  cases driver with
  | libPq => exact Option.some.inj hrule ▸ hlibPq
  | pgxV4 => exact Option.some.inj hrule ▸ hpgxV4
  | pgxV5 => exact Option.some.inj hrule ▸ hpgxV5

theorem follows_scalar (hbase : base ∈ sharedFronts) (v5 null : String) :
    (scalar base v5 null).Follows :=
  Entry.follows_mk ⟨allowsFront_of_mem hbase .libPq, allows_sqlNull null .libPq⟩
    ⟨allowsFront_of_mem hbase .pgxV4, allows_sqlNull null .pgxV4⟩
    ⟨allowsFront_of_mem hbase .pgxV5, allows_pgtypeV5 v5⟩

theorem follows_newest (hbase : base ∈ sharedFronts) {null : String}
    (hnull : ∀ driver : Driver, driver.Allows null) (v5 : String) :
    (newest base null v5).Follows :=
  Entry.follows_mk ⟨allowsFront_of_mem hbase .libPq, hnull .libPq⟩
    ⟨allowsFront_of_mem hbase .pgxV4, hnull .pgxV4⟩ (allows_pgtypeV5 v5)

theorem follows_temporal (v5 : String) : (temporal v5).Follows :=
  follows_newest (by decide) (allows_sqlNull "NullTime") v5

theorem follows_extension (v5 v4 : Option String) : (extension v5 v4).Follows := by
  intro driver rule hrule
  cases driver with
  | libPq => cases hrule
  | pgxV4 =>
      obtain ⟨name, -, rfl⟩ := Option.map_eq_some_iff.1 hrule
      exact allows_pgtypeV4 name
  | pgxV5 =>
      obtain ⟨name, -, rfl⟩ := Option.map_eq_some_iff.1 hrule
      exact allows_pgtypeV5 name

theorem follows_ranges (element v4 : String) : (ranges element v4).Follows :=
  follows_extension _ _

theorem follows_multiranges (element : String) : (multiranges element).Follows :=
  follows_extension _ _

theorem follows_json (v4 : String) : (json v4).Follows :=
  Entry.follows_mk ⟨allowsFront_of_mem (by decide) .libPq, allows_pqtype "NullRawMessage"⟩
    (allows_pgtypeV4 v4) (allows_bytes .pgxV5)

theorem follows_address (hbase : base ∈ sharedFronts) (name : String) :
    (address base name).Follows :=
  Entry.follows_mk (allows_pqtype name) (allows_pgtypeV4 name) (allowsFront_of_mem hbase .pgxV5)

theorem follows_always {rule : TypeRule} (h : ∀ driver, rule.Follows driver) :
    (always rule).Follows :=
  Entry.follows_mk (h .libPq) (h .pgxV4) (h .pgxV5)

theorem follows_asPointer (hbase : base ∈ sharedFronts) :
    Entry.Follows ⟨none, none, some (.asPointer base)⟩ := by
  intro driver rule hrule
  cases driver with
  | libPq => cases hrule
  | pgxV4 => cases hrule
  | pgxV5 =>
      cases hrule
      exact allowsFront_of_mem hbase .pgxV5

theorem follows_types : ∀ row ∈ types, row.2.Follows := by
  have hnumeric : Entry.Follows ⟨some (.orNull "string" (sqlNull "NullString")),
      some (.fixed (pgtypeV4 "Numeric")), some (.fixed (pgtypeV5 "Numeric"))⟩ :=
    Entry.follows_mk ⟨allowsFront_of_mem (by decide) .libPq, allows_sqlNull _ .libPq⟩
      (allows_pgtypeV4 _) (allows_pgtypeV5 _)
  have hbytes : (always (.fixed "[]byte")).Follows := follows_always allows_bytes
  have htimetz : (always (.orNull "time.Time" (sqlNull "NullTime"))).Follows :=
    follows_always fun driver => ⟨allowsFront_of_mem (by decide) driver, allows_sqlNull _ driver⟩
  have huuid : (newest "github.com/google/uuid.UUID" "github.com/google/uuid.NullUUID"
      "UUID").Follows :=
    follows_newest (by decide) (fun driver => (allowsFront_of_mem (by decide) driver).allows) _
  have hmacaddr : Entry.Follows ⟨some (.fixed (pqtype "Macaddr")),
      some (.fixed (pgtypeV4 "Macaddr")), some (.fixed "net.HardwareAddr")⟩ :=
    Entry.follows_mk (allows_pqtype _) (allows_pgtypeV4 _)
      (allowsFront_of_mem (by decide) .pgxV5).allows
  have hinterval : (newest "int64" (sqlNull "NullInt64") "Interval").Follows :=
    follows_newest (by decide) (allows_sqlNull _) _
  have hany : (always (.fixed anyType)).Follows :=
    follows_always fun driver => (allowsFront_of_mem (by decide) driver).allows
  simp (disch := decide) only [types, List.forall_mem_cons, List.not_mem_nil, false_implies,
    implies_true, and_true, follows_scalar, hnumeric, follows_json, hbytes, follows_temporal,
    htimetz, huuid, follows_address, hmacaddr, hinterval, follows_ranges, follows_multiranges,
    follows_extension, follows_asPointer, hany]

/-- A rule that is found is written for the driver. -/
theorem follows_of_rule? {driver : Driver} {dataType : String} {rule : TypeRule}
    (h : rule? driver dataType = some rule) : rule.Follows driver := by
  obtain ⟨row, hrow, -, hunder⟩ := exists_row_of_rule? h
  exact follows_types row hrow driver rule hunder

private theorem pointsUnasked_types : ∀ row ∈ types, ∀ driver,
    ∀ rule ∈ row.2.under driver, rule.PointsUnasked →
      driver = .pgxV5 ∧ ∀ name ∈ row.1, name = "inet" ∨ name = "cidr" := by
  decide

theorem eq_address_of_pointsUnasked {driver : Driver} {dataType : String} {rule : TypeRule}
    (h : rule? driver dataType = some rule) (hpoints : rule.PointsUnasked) :
    driver = .pgxV5 ∧ (dataType = "inet" ∨ dataType = "cidr") := by
  obtain ⟨row, hrow, hname, hunder⟩ := exists_row_of_rule? h
  obtain ⟨hdriver, haddress⟩ := pointsUnasked_types row hrow driver rule hunder hpoints
  exact ⟨hdriver, haddress dataType hname⟩

theorem rule?_addresses : rule? .pgxV5 "inet" = some (.orPointer "net/netip.Addr") ∧
    rule? .pgxV5 "cidr" = some (.orPointer "net/netip.Prefix") := by
  decide

theorem exists_pointsUnasked {dataType : String} (h : dataType = "inet" ∨ dataType = "cidr") :
    ∃ rule, rule? .pgxV5 dataType = some rule ∧ rule.PointsUnasked := by
  rcases h with rfl | rfl
  · exact ⟨_, rule?_addresses.1, trivial⟩
  · exact ⟨_, rule?_addresses.2, trivial⟩

end Postgres


/-! ### What the map gives -/

namespace TypeDeclaration.GoTypes

variable {options : Options} {package : Option String} {schema name : String}
  {kind : CustomTypeKind} {plain null : GoType}

theorem pointer_plain (h : GoTypes options package schema name kind plain null) :
    plain.pointer = false := by
  cases h with
  | enum hname hpackage hsource hpointer hslices => exact hpointer
  | pointer hpgx hpointers => rfl
  | nullString hplain => rfl

theorem nullPointers_of_pointer (h : GoTypes options package schema name kind plain null)
    (hnull : null.pointer = true) : options.nullPointers = true := by
  cases h with
  | enum hname hpackage hsource hpointer hslices =>
      rw [hpointer] at hnull
      cases hnull
  | pointer hpgx hpointers => rw [Options.nullPointers, hpgx, hpointers, Bool.and_self]
  | nullString hplain => cases hnull

end TypeDeclaration.GoTypes

/-- Custom types are pointers only where null values are. -/
theorem CustomTypes.nullPointers_of_pointer {schemas : List Schema} {options : Options}
    {package : Option String} {custom : CustomType} (h : custom ∈ build schemas options package)
    (hpointer : custom.goType.pointer = true) : options.nullPointers = true := by
  rw [build_eq_flatMap] at h
  obtain ⟨declaration, -, hpair⟩ := List.mem_flatMap.1 h
  have htypes := declaration.goTypes_custom options package
  simp only [TypeDeclaration.pair, List.mem_cons, List.not_mem_nil, or_false] at hpair
  rcases hpair with rfl | rfl
  · rw [htypes.pointer_plain] at hpointer
    cases hpointer
  · exact htypes.nullPointers_of_pointer hpointer

namespace Engine

variable {engine : Engine} {options : Options} {types : CustomTypes} {column : Column}

/-- The column's type is a custom one, as none that is built in is declared so. -/
def MapsToCustom (engine : Engine) (options : Options) (types : CustomTypes) (column : Column) :
    Prop :=
  engine.rule? options column = none ∧
    ∃ custom, engine.customType? options types column = some custom

/-- What an engine makes of a column: what a built-in type comes down to, else a custom type, else
the empty interface. -/
theorem mapType_cases (engine : Engine) (options : Options) (types : CustomTypes)
    (column : Column) :
    (∃ rule, engine.rule? options column = some rule ∧ engine.mapType options types column =
        rule.resolve column.neverNull (engine.nullPointers options)) ∨
      (engine.MapsToCustom options types column ∧ ∃ custom ∈ types,
        engine.mapType options types column = custom.goType) ∨
      engine.mapType options types column = .named anyType := by
  unfold mapType MapsToCustom
  cases hrule : engine.rule? options column with
  | some rule => exact .inl ⟨rule, rfl, rfl⟩
  | none =>
      right
      cases hcustom : engine.customType? options types column with
      | some custom =>
          exact .inl ⟨⟨rfl, custom, rfl⟩, custom, mem_of_customType? hcustom, rfl⟩
      | none => exact .inr rfl

theorem asked_or_address_of_pointer {schemas : List Schema} {package : Option String}
    (h : (postgresql.mapType options (CustomTypes.build schemas options package) column).pointer =
      true) :
    options.nullPointers = true ∨ options.driver = .pgxV5 ∧ column.neverNull = false ∧
      (column.dataType = "inet" ∨ column.dataType = "cidr") := by
  rcases mapType_cases postgresql options (CustomTypes.build schemas options package) column with
    ⟨rule, hrule, hmap⟩ | ⟨-, custom, hcustom, hmap⟩ | hmap
  · rw [hmap, (Postgres.follows_of_rule? hrule).pointer_resolve] at h
    rcases TypeRule.asked_or_unasked_of_points h with hasked | ⟨hnull, hunasked⟩
    · exact .inl hasked
    · obtain ⟨hdriver, haddress⟩ := Postgres.eq_address_of_pointsUnasked hrule hunasked
      exact .inr ⟨hdriver, hnull, haddress⟩
  · rw [hmap] at h
    exact .inl (CustomTypes.nullPointers_of_pointer hcustom h)
  · rw [hmap] at h
    cases h

theorem pointer_of_address (hdriver : options.driver = .pgxV5) (hnull : column.neverNull = false)
    (haddress : column.dataType = "inet" ∨ column.dataType = "cidr") (types : CustomTypes) :
    (postgresql.mapType options types column).pointer = true := by
  obtain ⟨rule, hfound, hunasked⟩ := Postgres.exists_pointsUnasked haddress
  have hrule : postgresql.rule? options column = some rule := by
    rw [rule?, hdriver, hfound]
  simp only [mapType, hrule]
  rw [(Postgres.follows_of_rule? hfound).pointer_resolve, hnull, hunasked.points_eq]

theorem eq_driver_of_isUnder (hcustom : ¬ postgresql.MapsToCustom options types column)
    {imp : Import} (himp : (postgresql.mapType options types column).source = some imp)
    {driver : Driver} (hunder : imp.IsUnder driver.typesRoot) : driver = options.driver := by
  rcases mapType_cases postgresql options types column with
    ⟨rule, hrule, hmap⟩ | ⟨hmaps, -⟩ | hmap
  · rw [hmap] at himp
    exact (Postgres.follows_of_rule? hrule).isOwn_resolve himp hunder
  · exact absurd hmaps hcustom
  · rw [hmap] at himp
    cases himp

end Engine

/-- What PostgreSQL's map makes of a column is a pointer only under a pgx driver, and there only
where the options ask for pointers or the column is a network address that can be null, which the
newest driver always points to. Unless the type is a custom one, what it imports is in the package of
no driver's own types, or in that of the options' driver. -/
theorem pointers_and_imports_by_driver (options : Options) (schemas : List Schema)
    (package : Option String) (column : Column) {type : GoType}
    (htype : Engine.postgresql.mapType options (CustomTypes.build schemas options package) column =
      type) :
    (type.pointer = true →
      options.driver.isPgx = true ∧
        (options.emitPointersForNullTypes = true ∨
          options.driver = .pgxV5 ∧ column.neverNull = false ∧
            (column.dataType = "inet" ∨ column.dataType = "cidr"))) ∧
    (options.driver = .pgxV5 → column.neverNull = false →
      column.dataType = "inet" ∨ column.dataType = "cidr" → type.pointer = true) ∧
    (¬ Engine.postgresql.MapsToCustom options (CustomTypes.build schemas options package) column →
      ∀ imp, type.source = some imp →
        ∀ driver : Driver, imp.IsUnder driver.typesRoot → driver = options.driver) := by
  subst htype
  refine ⟨fun hpointer => ?_, fun hdriver hnull haddress =>
    Engine.pointer_of_address hdriver hnull haddress _, fun hcustom imp himp driver hunder =>
    Engine.eq_driver_of_isUnder hcustom himp hunder⟩
  rcases Engine.asked_or_address_of_pointer hpointer with hasked | ⟨hdriver, haddress⟩
  · obtain ⟨hpgx, hemit⟩ := Bool.and_eq_true_iff.1 hasked
    exact ⟨hpgx, .inl hemit⟩
  · exact ⟨by rw [hdriver]; rfl, .inr ⟨hdriver, haddress⟩⟩

/-- A column that can be null. -/
def optionalColumn (dataType : String) : Column where
  name := "value"
  type := some { name := dataType }

/-- The older pgx driver, with pointers for null values. -/
def pgxV4Options : Options :=
  { plainOptions with sqlPackage := "pgx/v4", emitPointersForNullTypes := true }

def pairSchemas : List Schema := [{ name := "public", compositeTypes := [{ name := "pair" }] }]

/-- An address is a pointer under the newest driver though nobody asks for one, and is of a package
for `database/sql` without a pgx driver. Of a composite type there is a pointer because the options
ask for it. -/
theorem addresses_and_pairs_by_driver :
    ((Engine.postgresql.mapType pgxOptions (CustomTypes.build [] pgxOptions none)
        (optionalColumn "inet")).toText = "*netip.Addr" ∧
      pgxOptions.emitPointersForNullTypes = false ∧ pgxOptions.driver = .pgxV5 ∧
      (optionalColumn "inet").neverNull = false) ∧
    ((Engine.postgresql.mapType plainOptions (CustomTypes.build [] plainOptions none)
        (optionalColumn "inet")).source = some { path := "github.com/sqlc-dev/pqtype" } ∧
      plainOptions.driver = .libPq) ∧
    ((Engine.postgresql.mapType pgxV4Options (CustomTypes.build pairSchemas pgxV4Options none)
        (optionalColumn "pair")).toText = "*string" ∧ pgxV4Options.driver.isPgx = true) := by
  have hruns : ((Engine.postgresql.mapType pgxOptions (CustomTypes.build [] pgxOptions none)
        (optionalColumn "inet")).toText = "*netip.Addr" ∧
      (Engine.postgresql.mapType pgxOptions (CustomTypes.build [] pgxOptions none)
        (optionalColumn "inet")).pointer = true) ∧
      ((Engine.postgresql.mapType plainOptions (CustomTypes.build [] plainOptions none)
        (optionalColumn "inet")).source = some { path := "github.com/sqlc-dev/pqtype" } ∧
      Engine.postgresql.rule? plainOptions (optionalColumn "inet") ≠ none) ∧
      (Engine.postgresql.mapType pgxV4Options (CustomTypes.build pairSchemas pgxV4Options none)
        (optionalColumn "pair")).toText = "*string" ∧
      (Engine.postgresql.mapType pgxV4Options (CustomTypes.build pairSchemas pgxV4Options none)
        (optionalColumn "pair")).pointer = true := by
    decide +kernel
  obtain ⟨⟨haddress, haddressPointer⟩, ⟨hsource, hbuiltIn⟩, hpair, hpairPointer⟩ := hruns
  have hpgx := pointers_and_imports_by_driver pgxOptions [] none (optionalColumn "inet") rfl
  have hplain := pointers_and_imports_by_driver plainOptions [] none (optionalColumn "inet") rfl
  have hasked := pointers_and_imports_by_driver pgxV4Options pairSchemas none
    (optionalColumn "pair") rfl
  refine ⟨⟨haddress, rfl, ?_⟩, ⟨hsource, ?_⟩, hpair, (hasked.1 hpairPointer).1⟩
  · rcases (hpgx.1 haddressPointer).2 with hemit | ⟨hdriver, hnull, -⟩
    · cases hemit
    · exact ⟨hdriver, hnull⟩
  · have hdriver := hplain.2.2 (fun hcustom => hbuiltIn hcustom.1) _ hsource .libPq (.inl rfl)
    exact hdriver.symm

end LoaderGen

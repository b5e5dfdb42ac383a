import LoaderGen.GoType.Rule
import LoaderGen.Options.Engine

/-!
# Types of PostgreSQL

The Go types of the built-in types, which depend on the driver: the pgx drivers have types of their
own, and a type that a driver knows nothing of is left to the custom types.
-/

namespace LoaderGen.Postgres

def pgtypeV5 (name : String) : String := "github.com/jackc/pgx/v5/pgtype." ++ name

def pgtypeV4 (name : String) : String := "github.com/jackc/pgtype." ++ name

def pqtype (name : String) : String := "github.com/sqlc-dev/pqtype." ++ name

def sqlNull (name : String) : String := "database/sql." ++ name

/-- What becomes of a type under each driver. -/
structure Entry where
  libPq : Option TypeRule
  pgxV4 : Option TypeRule
  pgxV5 : Option TypeRule

def Entry.under (entry : Entry) : Driver → Option TypeRule
  | .libPq => entry.libPq
  | .pgxV4 => entry.pgxV4
  | .pgxV5 => entry.pgxV5

/-- A Go type, with a wrapper of `database/sql` or of pgx for null. -/
def scalar (base v5 null : String) : Entry :=
  let common : TypeRule := .orNull base (sqlNull null)
  ⟨some common, some common, some (.orNull base (pgtypeV5 v5))⟩

/-- A Go type under the older drivers, and one of pgx under the newest. -/
def newest (base null v5 : String) : Entry :=
  ⟨some (.orNull base null), some (.orNull base null), some (.fixed (pgtypeV5 v5))⟩

def temporal (v5 : String) : Entry := newest "time.Time" (sqlNull "NullTime") v5

/-- Types of the drivers' own, where they have one. -/
def extension (v5 v4 : Option String) : Entry :=
  ⟨none, v4.map fun name => .fixed (pgtypeV4 name), v5.map fun name => .fixed (pgtypeV5 name)⟩

def json (v4 : String) : Entry :=
  ⟨some (.orNull "encoding/json.RawMessage" (pqtype "NullRawMessage")),
    some (.fixed (pgtypeV4 v4)), some (.fixed "[]byte")⟩

def address (base name : String) : Entry :=
  ⟨some (.fixed (pqtype name)), some (.fixed (pgtypeV4 name)), some (.orPointer base)⟩

def always (rule : TypeRule) : Entry := ⟨some rule, some rule, some rule⟩

def ranges (element v4 : String) : Entry :=
  extension (some ("Range[pgtype." ++ element ++ "]")) (some v4)

def multiranges (element : String) : Entry :=
  extension (some ("Multirange[pgtype.Range[pgtype." ++ element ++ "]]")) none

/-- The built-in types by the names that they are declared with. -/
def types : List (List String × Entry) := [
  (["serial", "serial4", "pg_catalog.serial4", "integer", "int", "int4", "pg_catalog.int4"],
    scalar "int32" "Int4" "NullInt32"),
  (["bigserial", "serial8", "pg_catalog.serial8", "bigint", "int8", "pg_catalog.int8"],
    scalar "int64" "Int8" "NullInt64"),
  (["smallserial", "serial2", "pg_catalog.serial2", "smallint", "int2", "pg_catalog.int2"],
    scalar "int16" "Int2" "NullInt16"),
  (["float", "double precision", "float8", "pg_catalog.float8"],
    scalar "float64" "Float8" "NullFloat64"),
  (["real", "float4", "pg_catalog.float4"], scalar "float32" "Float4" "NullFloat64"),
  (["numeric", "pg_catalog.numeric", "money"],
    ⟨some (.orNull "string" (sqlNull "NullString")), some (.fixed (pgtypeV4 "Numeric")),
      some (.fixed (pgtypeV5 "Numeric"))⟩),
  (["boolean", "bool", "pg_catalog.bool"], scalar "bool" "Bool" "NullBool"),
  (["json", "pg_catalog.json"], json "JSON"),
  (["jsonb", "pg_catalog.jsonb"], json "JSONB"),
  (["bytea", "blob", "pg_catalog.bytea"], always (.fixed "[]byte")),
  (["date"], temporal "Date"),
  (["pg_catalog.time"], temporal "Time"),
  (["pg_catalog.timetz"], always (.orNull "time.Time" (sqlNull "NullTime"))),
  (["pg_catalog.timestamp", "timestamp"], temporal "Timestamp"),
  (["pg_catalog.timestamptz", "timestamptz"], temporal "Timestamptz"),
  (["text", "pg_catalog.varchar", "pg_catalog.bpchar", "string", "citext", "name", "ltree",
    "lquery", "ltxtquery"], scalar "string" "Text" "NullString"),
  (["uuid"], newest "github.com/google/uuid.UUID" "github.com/google/uuid.NullUUID" "UUID"),
  (["inet"], address "net/netip.Addr" "Inet"),
  (["cidr"], address "net/netip.Prefix" "CIDR"),
  (["macaddr", "macaddr8"],
    ⟨some (.fixed (pqtype "Macaddr")), some (.fixed (pgtypeV4 "Macaddr")),
      some (.fixed "net.HardwareAddr")⟩),
  (["interval", "pg_catalog.interval"], newest "int64" (sqlNull "NullInt64") "Interval"),
  (["daterange"], ranges "Date" "Daterange"),
  (["datemultirange"], multiranges "Date"),
  (["tsrange"], ranges "Timestamp" "Tsrange"),
  (["tsmultirange"], multiranges "Timestamp"),
  (["tstzrange"], ranges "Timestamptz" "Tstzrange"),
  (["tstzmultirange"], multiranges "Timestamptz"),
  (["numrange"], ranges "Numeric" "Numrange"),
  (["nummultirange"], multiranges "Numeric"),
  (["int4range"], ranges "Int4" "Int4range"),
  (["int4multirange"], multiranges "Int4"),
  (["int8range"], ranges "Int8" "Int8range"),
  (["int8multirange"], multiranges "Int8"),
  (["hstore"], extension (some "Hstore") (some "Hstore")),
  (["bit", "varbit", "pg_catalog.bit", "pg_catalog.varbit"],
    extension (some "Bits") (some "Varbit")),
  (["cid"], extension (some "Uint32") (some "CID")),
  (["oid"], extension (some "Uint32") (some "OID")),
  (["tid"], extension (some "TID") (some "TID")),
  (["xid"], extension (some "Uint32") (some "XID")),
  (["box"], extension (some "Box") (some "Box")),
  (["circle"], extension (some "Circle") (some "Circle")),
  (["line"], extension (some "Line") (some "Line")),
  (["lseg"], extension (some "Lseg") (some "Lseg")),
  (["path"], extension (some "Path") (some "Path")),
  (["point"], extension (some "Point") (some "Point")),
  (["polygon"], extension (some "Polygon") (some "Polygon")),
  (["vector"], ⟨none, none, some (.asPointer "github.com/pgvector/pgvector-go.Vector")⟩),
  (["void", "any"], always (.fixed anyType))]

def rule? (driver : Driver) (dataType : String) : Option TypeRule :=
  (types.find? fun (names, _) => names.contains dataType).bind fun (_, entry) => entry.under driver

end LoaderGen.Postgres

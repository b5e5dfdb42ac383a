/-!
# Engines and drivers

The database engine that a request names, and the Go driver that the options choose.
-/

namespace LoaderGen

/-- The dialect of the database. -/
inductive Engine where
  | postgresql
  | mysql
  | sqlite
  deriving DecidableEq, Repr

namespace Engine

def name : Engine → String
  | postgresql => "postgresql"
  | mysql => "mysql"
  | sqlite => "sqlite"

def ofName? (s : String) : Option Engine :=
  [postgresql, mysql, sqlite].find? (·.name == s)

end Engine

/-- The Go library that generated code runs queries with. -/
inductive Driver where
  | libPq
  | pgxV4
  | pgxV5
  deriving DecidableEq, Repr

namespace Driver

instance {p : Driver → Prop} [DecidablePred p] : Decidable (∀ driver, p driver) :=
  decidable_of_iff (p libPq ∧ p pgxV4 ∧ p pgxV5)
    ⟨fun ⟨hlibPq, hpgxV4, hpgxV5⟩ => fun
      | libPq => hlibPq
      | pgxV4 => hpgxV4
      | pgxV5 => hpgxV5,
    fun h => ⟨h libPq, h pgxV4, h pgxV5⟩⟩

/-- The driver of an SQL package option; all but the pgx packages run on `database/sql`. -/
def ofSqlPackage (sqlPackage : String) : Driver :=
  if sqlPackage = "pgx/v4" then pgxV4
  else if sqlPackage = "pgx/v5" then pgxV5
  else libPq

def name : Driver → String
  | libPq => "github.com/lib/pq"
  | pgxV4 => "github.com/jackc/pgx/v4"
  | pgxV5 => "github.com/jackc/pgx/v5"

def isPgx : Driver → Bool
  | libPq => false
  | pgxV4 => true
  | pgxV5 => true

/-- The package that declares the error of a missing row. -/
def importPath : Driver → String
  | libPq => "database/sql"
  | pgxV4 => "github.com/jackc/pgx/v4"
  | pgxV5 => "github.com/jackc/pgx/v5"

end Driver

end LoaderGen

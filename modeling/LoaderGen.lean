import LoaderGen.Ascending
import LoaderGen.CustomType
import LoaderGen.Duration
import LoaderGen.Generate
import LoaderGen.Glob.Basic
import LoaderGen.Glob.Pattern
import LoaderGen.Glob.Reading
import LoaderGen.GoType.Basic
import LoaderGen.GoType.MySql
import LoaderGen.GoType.Postgres
import LoaderGen.GoType.Resolution
import LoaderGen.GoType.Rule
import LoaderGen.GoType.Spec
import LoaderGen.GoType.Sqlite
import LoaderGen.Model.Build
import LoaderGen.Model.Numbering
import LoaderGen.Model.Struct
import LoaderGen.Naming.Normalizer
import LoaderGen.Naming.Singular
import LoaderGen.Naming.Words
import LoaderGen.Number.Double
import LoaderGen.Number.Shortest
import LoaderGen.Options.Basic
import LoaderGen.Options.Cache
import LoaderGen.Options.Engine
import LoaderGen.Options.Error
import LoaderGen.Options.Override
import LoaderGen.Options.Reading
import LoaderGen.Options.Renames
import LoaderGen.Plan.Basic
import LoaderGen.Plan.Encoding
import LoaderGen.Plan.Imports
import LoaderGen.Resolution
import LoaderGen.Schema.Catalog
import LoaderGen.Schema.Column
import LoaderGen.Schema.Encoding
import LoaderGen.Schema.Identifier
import LoaderGen.Schema.Request
import LoaderGen.Text.Alphanumeric
import LoaderGen.Text.Blank
import LoaderGen.Text.CaseTable
import LoaderGen.Text.Casing
import LoaderGen.Text.Cluster
import LoaderGen.Text.ClusterTable
import LoaderGen.Text.Printable
import LoaderGen.Text.Quoted
import LoaderGen.Text.Ranges
import LoaderGen.Text.Split
import LoaderGen.Text.Utf8
import LoaderGen.Value.Basic
import LoaderGen.Value.Json
import LoaderGen.Value.Pretty
import LoaderGen.Value.Toml
import LoaderGen.Value.Toml.Moment
import LoaderGen.Value.Toml.Number
import LoaderGen.Value.Toml.Scalar
import LoaderGen.Value.Toml.Table
import LoaderGen.Proofs.Options.Finalize
import LoaderGen.Proofs.Failure
import LoaderGen.Proofs.Model.Embedding
import LoaderGen.Proofs.Plan.FileNames
import LoaderGen.Proofs.Plan.ImportSet
import LoaderGen.Proofs.Plan.ImportClosure
import LoaderGen.Proofs.Reach
import LoaderGen.Proofs.Options.Precedence
import LoaderGen.Proofs.GoType.NullPointers
import LoaderGen.Proofs.GoType.Qualifier
import LoaderGen.Proofs.Model.Qualifiers
import LoaderGen.Proofs.Dropped
import LoaderGen.Proofs.LoaderSettings
import LoaderGen.Proofs.Rendering
import LoaderGen.Proofs.Value.Fields
import LoaderGen.Proofs.Schema.RoundTrip
import LoaderGen.Proofs.Model.Numbering
import LoaderGen.Proofs.Model.Rows
import LoaderGen.Proofs.Model.FieldNames
import LoaderGen.Proofs.Caches
import LoaderGen.Proofs.Model.PrimaryKeys
import LoaderGen.Proofs.Options.Compile
import LoaderGen.Proofs.Options.Renames
import LoaderGen.Proofs.Options.Settled
import LoaderGen.Proofs.CustomTypes
import LoaderGen.Proofs.Model.EnumColumns
import LoaderGen.Proofs.GoType.Slices
import LoaderGen.Proofs.Text.Ascii
import LoaderGen.Proofs.Naming.Cuts
import LoaderGen.Proofs.Naming.LastWord
import LoaderGen.Proofs.Naming.Capitals
import LoaderGen.Proofs.Naming.Fallback
import LoaderGen.Proofs.GoType.Nameless
import LoaderGen.Proofs.GoType.Specification
import LoaderGen.Proofs.GoType.Spellings
import LoaderGen.Proofs.GoType.TypeText
import LoaderGen.Proofs.Naming.Identifiers
import LoaderGen.Proofs.Duration
import LoaderGen.Proofs.Number.Whole
import LoaderGen.Proofs.WholeDurations
import LoaderGen.Proofs.Plan.Registrations
import LoaderGen.Proofs.Text.Utf8
import LoaderGen.Proofs.Glob.Matching
import LoaderGen.Proofs.Glob.Wildcards
import LoaderGen.Proofs.Glob.Literal
import LoaderGen.Proofs.DefaultSchema
import LoaderGen.Proofs.GoType.Imports
import LoaderGen.Proofs.GoType.Drivers

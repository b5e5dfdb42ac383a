import LoaderGen.Naming.Singular
import LoaderGen.Options.Basic
import LoaderGen.Text.Alphanumeric

/-!
# Go names

Names of the database as identifiers of Go. A name that leaves nothing to make an identifier of is
kept as it is.
-/

namespace LoaderGen

namespace Naming

/-- Anything but letters and digits separates the words of a name. -/
def clean (c : Char) : Char := if Text.isAlphanumeric c then c else '_'

/-- A word of an identifier: an initialism in capitals, else with its first letter in upper case. -/
def identifierWord (isInitialism : String → Bool) (word : List Char) : List Char :=
  if isInitialism (String.ofList (Text.lower word)) then Text.upper word else Text.capitalize word

/-- An identifier starts with no digit. -/
def guardDigit (cs : List Char) : List Char :=
  if (cs.head?.map Char.isDigit).getD false then '_' :: cs else cs

/-- The words of a name joined to an identifier. -/
def normalize (isInitialism : String → Bool) (name : List Char) : List Char :=
  guardDigit (((name.map clean).splitOn '_').flatMap (identifierWord isInitialism))

end Naming

namespace Options

/-- The name of a table or type with its schema before it, unless that is the default one. -/
def sqlName (options : Options) (schema raw : String) : String :=
  if schema.isEmpty || schema == options.defaultSchema then raw else schema ++ "_" ++ raw

/-- The identifier for a name: the one that the options give, else its words joined. -/
def goName (options : Options) (name : String) : String :=
  match options.renames.find? name with
  | some target => target
  | none => String.ofList (Naming.normalize options.initialismSet.contains name.toList)

/-- The text, or the other one when it is empty. -/
def orElseText (s other : String) : String := if s.isEmpty then other else s

/-- The name of the Go type for an enum or the like. -/
def typeName (options : Options) (schema raw : String) : String :=
  orElseText (options.goName (options.sqlName schema raw)) raw

/-- The table keeps its name as it is. -/
def keepsTableName (options : Options) (canonical table : String) : Bool :=
  options.emitExactTableNames || options.inflectionExcludeTableNames.any fun exclusion =>
    Text.eqIgnoringAsciiCase exclusion canonical || Text.eqIgnoringAsciiCase exclusion table

/-- The name of the struct of a table, in the singular. -/
def structName (options : Options) (schema table : String) : String :=
  let canonical := options.sqlName schema table
  match options.renames.find? canonical with
  | some target => target
  | none =>
    let name :=
      if options.keepsTableName canonical table then canonical
      else Naming.singularize canonical options.inflectionExcludeTableNames
    orElseText (options.goName name) name

/-- The name of the field of a column. -/
def fieldName (options : Options) (column : String) : String :=
  orElseText (options.goName column) column

/-- The name of a column in JSON. -/
def jsonTag (options : Options) (column : String) : String :=
  match options.jsonTagStyle with
  | some style => Naming.restyle style column
  | none => column

end Options

end LoaderGen

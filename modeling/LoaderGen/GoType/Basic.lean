import LoaderGen.Text.Blank
import LoaderGen.Text.Split

/-!
# Go types

The type of a generated field: an element name with its package and import, an optional pointer, and
any number of slices around it. A type is read from a specification such as `[]*example.com/m/pkg.T`
and written with the package name alone.
-/

namespace LoaderGen

/-- An import of generated code. -/
structure Import where
  path : String
  /-- The name under which a file knows the package, where it is not the package's own. -/
  localName : Option String := none
  deriving DecidableEq, Repr, Inhabited

namespace Import

/-- The package belongs to the standard library: its first path segment has no dot. -/
def isStandard (imp : Import) : Bool :=
  !(imp.path.toList.takeWhile (· != '/')).contains '.'

/-- The import as it is written: the quoted path, after the local name if there is one. -/
def toText (imp : Import) : String :=
  match imp.localName with
  | some name => name ++ " \"" ++ imp.path ++ "\""
  | none => "\"" ++ imp.path ++ "\""

end Import

structure GoType where
  /-- What a file that names the type has to import. -/
  source : Option Import := none
  package : Option String := none
  /-- The element name, with its type arguments. -/
  name : String := ""
  pointer : Bool := false
  sliceDims : Nat := 0
  deriving DecidableEq, Repr, Inhabited

namespace GoType

def named (name : String) : GoType := { name := name }

/-- Qualifiers that stand for a package known by its name. -/
def knownPackages : List (String × String) := [
  ("json", "encoding/json"), ("net", "net"), ("netip", "net/netip"), ("sql", "database/sql"),
  ("time", "time"), ("uuid", "github.com/google/uuid")]

/-- A major version: `v` and digits. -/
def isVersion : List Char → Bool
  | 'v' :: digits => !digits.isEmpty && digits.all Char.isDigit
  | _ => false

/-- The text without any `go-` before it. -/
def dropGoBefore : List Char → List Char
  | 'g' :: 'o' :: '-' :: rest => dropGoBefore rest
  | cs => cs

/-- The reversed text without any `-go` at what was its end. -/
def dropGoAfter : List Char → List Char
  | 'o' :: 'g' :: '-' :: rest => dropGoAfter rest
  | cs => cs

/-- The path segment that names a package: the last one, or the one before a major version. -/
def namingSegment (path : List Char) : List Char :=
  let last := Text.lastSegment '/' path
  if isVersion last then
    match Text.splitAtLast? '/' path with
    | some (before, _) => Text.lastSegment '/' before
    | none => last
  else last

/-- The text without a version after its last dot. -/
def dropDottedVersion (segment : List Char) : List Char :=
  match Text.splitAtLast? '.' segment with
  | some (name, version) => if isVersion version then name else segment
  | none => segment

/-- The package name that an import path implies: its naming segment without version and without
`go` before or after a dash, dashes becoming underscores. -/
def packageName (path : List Char) : List Char :=
  let segment := dropDottedVersion (namingSegment path)
  (dropGoBefore (dropGoAfter segment.reverse).reverse).map fun c => if c = '-' then '_' else c

/-- The slices at the start of a specification, and what follows. -/
def takeSlices : List Char → Nat × List Char
  | '[' :: ']' :: rest => let (dims, after) := takeSlices rest; (dims + 1, after)
  | cs => (0, cs)

/-- The pointer at the start of a specification, and what follows. -/
def takePointer : List Char → Bool × List Char
  | '*' :: rest => (true, rest)
  | cs => (false, cs)

/-- What stands before and after the last dot of the last path segment. -/
def splitQualifier? (head : List Char) : Option (List Char × List Char) :=
  let segment := Text.lastSegment '/' head
  (Text.splitAtLast? '.' segment).map fun (before, name) =>
    (head.take (head.length - segment.length) ++ before, name)

/-- The import and the package name that a qualifier stands for: a path names its package, and of
other qualifiers some are known. -/
def resolveQualifier (qualifier : List Char) : Option Import × String :=
  if qualifier.contains '/' then
    (some { path := String.ofList qualifier }, String.ofList (packageName qualifier))
  else
    let name := String.ofList qualifier
    ((knownPackages.lookup name).map fun path => { path := path }, name)

/-- The element type of a specification, without slices and pointer. Type arguments belong to the
name. -/
def parseElement (cs : List Char) : GoType :=
  let head := cs.takeWhile (· != '[')
  let arguments := cs.dropWhile (· != '[')
  match splitQualifier? head with
  | none => named (String.ofList cs)
  | some (qualifier, name) =>
    let (source, package) := resolveQualifier qualifier
    { source := source, package := some package, name := String.ofList (name ++ arguments) }

/-- The type of a specification: slices, a pointer, and a name that can be qualified by a package or
an import path. -/
def parse (spec : String) : GoType :=
  let (dims, rest) := takeSlices (Text.trim spec.toList)
  let (pointer, element) := takePointer rest
  { parseElement element with pointer := pointer, sliceDims := dims }

/-- The same element in another package. -/
def within (type : GoType) (package : String) (path : Option String) : GoType :=
  { type with package := some package, source := path.map fun p => { path := p } }

def wrapSlice (type : GoType) (dims : Nat) : GoType :=
  { type with sliceDims := type.sliceDims + dims }

def sliceText (dims : Nat) : List Char := (List.replicate dims ['[', ']']).flatten

def toText (type : GoType) : String :=
  String.ofList (sliceText type.sliceDims ++ (if type.pointer then ['*'] else [])) ++
    (match type.package with
      | some package => package ++ "."
      | none => "") ++ type.name

end GoType

end LoaderGen

import LoaderGen.GoType.Basic
import LoaderGen.Value.Basic

/-!
# Type specifications in options

An override gives its replacement type as one text, or spelled out in parts.
-/

namespace LoaderGen

/-- A replacement type as written in the options. -/
inductive GoTypeSpec where
  | text (spec : String)
  | parts (path package type : String) (pointer slice : Bool)
  deriving DecidableEq, Repr

instance : Inhabited GoTypeSpec := ⟨.text ""⟩

namespace GoTypeSpec

def isEmpty : GoTypeSpec → Bool
  | text spec => spec.isEmpty
  | parts _ _ type _ _ => type.isEmpty

/-- The element type of a specification in parts: read from the type name alone without an import
path, else imported, under a local name when the package is not the one that the path implies. -/
def element (path package type : String) : GoType :=
  if path.isEmpty then GoType.parse type
  else
    let implied := String.ofList (GoType.packageName path.toList)
    let isImplied := package.isEmpty || package == implied
    { source := some { path := path, localName := if isImplied then none else some package }
      package := some (if package.isEmpty then implied else package)
      name := type }

def resolve : GoTypeSpec → GoType
  | text spec => GoType.parse spec
  | parts path package type pointer slice =>
    let base := element path package type
    { base with
      pointer := base.pointer || pointer
      sliceDims := if slice then base.sliceDims + 1 else base.sliceDims }

/-- Reads a text, or a record of the parts; every part of the record has to be usable, even one that
is no field. -/
def ofValue? (v : Value) : Option GoTypeSpec :=
  match v with
  | .text spec => some (text spec)
  | .record members => do
    guard v.isUsable
    let fields ← Value.named? ["import", "package", "type", "pointer", "slice"] members
    return parts (← fields.orElse "import" "" Value.text?)
      (← fields.orElse "package" "" Value.text?) (← fields.orElse "type" "" Value.text?)
      (← fields.orElse "pointer" false Value.bool?)
      (← fields.orElse "slice" false Value.bool?)
  | _ => none

end GoTypeSpec

end LoaderGen

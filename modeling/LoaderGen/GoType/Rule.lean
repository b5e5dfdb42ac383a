import LoaderGen.GoType.Basic

/-!
# Types that depend on null

What a declared type becomes in Go: some types are the same whether a value can be null or not,
others have a form for null values.
-/

namespace LoaderGen

/-- The empty interface, which holds values of types that no map knows. -/
def anyType : String := "interface\x7b\x7d"

/-- What becomes of a declared type. -/
inductive TypeRule where
  /-- One type, null or not. -/
  | fixed (spec : String)
  /-- A type, and one for null values unless null is a pointer. -/
  | orNull (base null : String)
  /-- A type, and a pointer to it for null values. -/
  | orPointer (base : String)
  /-- A type, or always a pointer to it where null is a pointer. -/
  | asPointer (base : String)
  deriving DecidableEq, Repr

namespace TypeRule

/-- The type for values that are never null, or that can be; null values can be pointers. -/
def resolve (rule : TypeRule) (neverNull nullPointers : Bool) : GoType :=
  match rule with
  | fixed spec => .parse spec
  | orNull base null =>
    if neverNull then .parse base
    else if nullPointers then .parse ("*" ++ base)
    else .parse null
  | orPointer base => if neverNull then .parse base else .parse ("*" ++ base)
  | asPointer base => if nullPointers then .parse ("*" ++ base) else .parse base

end TypeRule

end LoaderGen

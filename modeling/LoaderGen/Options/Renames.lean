import LoaderGen.Ascending

/-!
# Renames

The names that the options give to tables and columns outright: a table sorted by the name replaced,
in which a later entry takes the place of an earlier one.
-/

namespace LoaderGen

/-- The names replaced, each with what replaces it. -/
structure Renames where
  entries : List (String × String)
  sorted : IsAscending Prod.fst entries
  deriving DecidableEq, Repr

namespace Renames

instance : EmptyCollection Renames := ⟨⟨[], .nil⟩⟩

instance : Inhabited Renames := ⟨∅⟩

def set (renames : Renames) (name target : String) : Renames :=
  ⟨insertAscending Prod.fst (name, target) renames.entries, renames.sorted.insert⟩

/-- The renames with those of the list set one after the other. -/
def setAll (renames : Renames) (more : List (String × String)) : Renames :=
  more.foldl (fun renames (name, target) => renames.set name target) renames

def ofList (entries : List (String × String)) : Renames := setAll ∅ entries

def find? (renames : Renames) (name : String) : Option String := renames.entries.lookup name

/-- The renames of both, the second ones winning. -/
def merge (renames others : Renames) : Renames := renames.setAll others.entries

end Renames

end LoaderGen

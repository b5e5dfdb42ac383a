/-!
# Numbered names

Names made different from one another: a name that is taken already gets the first number from two
on that makes it new.
-/

namespace LoaderGen.Numbering

/-- The first of the numbered names that is not taken; there is always one among as many as are
taken and one more. -/
def fresh (taken : List String) (name : String) : String :=
  if taken.contains name then
    let numbered := (List.range (taken.length + 1)).map fun n => name ++ toString (n + 2)
    (numbered.find? (! taken.contains ·)).getD name
  else name

/-- The names in order, each different from those taken and those before it. -/
def distinctFrom (taken : List String) : List String → List String
  | [] => []
  | name :: rest =>
    let next := fresh taken name
    next :: distinctFrom (next :: taken) rest

/-- The names in order, no two the same. -/
def distinct (names : List String) : List String := distinctFrom [] names

theorem length_distinctFrom (taken names : List String) :
    (distinctFrom taken names).length = names.length := by
  induction names generalizing taken with
  | nil => rfl
  | cons name rest ih => simp [distinctFrom, ih]

end LoaderGen.Numbering

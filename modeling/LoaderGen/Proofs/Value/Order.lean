import LoaderGen.Value.Basic
import Mathlib.Data.List.Nodup

/-!
# The order of members

A record lists its members in some order, and any other order of them makes the same record: a
writer may list them as they are declared, or sorted by their names. Where no name is listed twice,
a look-up finds the same in every order.
-/

namespace LoaderGen.Value

/-- A way of ordering the members of records. -/
structure MemberOrder where
  order : List (String × Value) → List (String × Value)
  perm (members : List (String × Value)) : (order members).Perm members

/-- Members stay as they are listed. -/
def MemberOrder.asListed : MemberOrder where
  order := id
  perm members := .refl members

mutual

/-- The value with the members of its records ordered, at every depth. -/
def arrange (way : MemberOrder) : Value → Value
  | list items => list (arrangeItems way items)
  | record members => record (way.order (arrangeMembers way members))
  | v => v

def arrangeItems (way : MemberOrder) : List Value → List Value
  | [] => []
  | v :: rest => arrange way v :: arrangeItems way rest

def arrangeMembers (way : MemberOrder) : List (String × Value) → List (String × Value)
  | [] => []
  | (name, v) :: rest => (name, arrange way v) :: arrangeMembers way rest

end

mutual

theorem arrange_asListed (v : Value) : arrange .asListed v = v := by
  cases v with
  | list items => rw [arrange, arrangeItems_asListed items]
  | record members =>
      rw [arrange, arrangeMembers_asListed members]
      rfl
  | _ => rfl

theorem arrangeItems_asListed (items : List Value) : arrangeItems .asListed items = items := by
  cases items with
  | nil => rfl
  | cons v rest => rw [arrangeItems, arrange_asListed v, arrangeItems_asListed rest]

theorem arrangeMembers_asListed (members : List (String × Value)) :
    arrangeMembers .asListed members = members := by
  cases members with
  | nil => rfl
  | cons member rest =>
      obtain ⟨name, v⟩ := member
      rw [arrangeMembers, arrange_asListed v, arrangeMembers_asListed rest]

end

variable (way : MemberOrder) {name : String} {members others : List (String × Value)}

theorem arrangeItems_map {α : Type} (write : α → Value) (items : List α) :
    arrangeItems way (items.map write) = items.map fun a => arrange way (write a) := by
  induction items with
  | nil => rfl
  | cons a items ih => rw [List.map_cons, List.map_cons, arrangeItems, ih]

theorem map_fst_arrangeMembers (members : List (String × Value)) :
    (arrangeMembers way members).map Prod.fst = members.map Prod.fst := by
  induction members with
  | nil => rfl
  | cons member rest ih =>
      obtain ⟨name, v⟩ := member
      rw [arrangeMembers, List.map_cons, List.map_cons, ih]

theorem lookup_arrangeMembers (name : String) (members : List (String × Value)) :
    (arrangeMembers way members).lookup name = (members.lookup name).map (arrange way) := by
  induction members with
  | nil => rfl
  | cons member rest ih =>
      obtain ⟨other, v⟩ := member
      rw [arrangeMembers, List.lookup_cons, List.lookup_cons, ih]
      cases name == other with
      | true => rfl
      | false => rfl

theorem lookup_eq_of_perm (h : members.Perm others) (hnodup : (members.map Prod.fst).Nodup) :
    members.lookup name = others.lookup name := by
  induction h with
  | nil => rfl
  | cons member h ih =>
      rw [List.map_cons, List.nodup_cons] at hnodup
      rw [List.lookup_cons, List.lookup_cons, ih hnodup.2]
  | swap first second rest =>
      obtain ⟨firstName, v⟩ := first
      obtain ⟨secondName, w⟩ := second
      simp only [List.map_cons, List.nodup_cons, List.mem_cons, not_or] at hnodup
      obtain ⟨⟨hne, -⟩, -⟩ := hnodup
      simp only [List.lookup_cons]
      -- The name is that of one of the two at most.
      by_cases hfirst : name = firstName
      · subst hfirst
        rw [beq_false_of_ne (Ne.symm hne)]
      · rw [beq_false_of_ne hfirst]
  | trans h _ ih ih' => rw [ih hnodup, ih' ((h.map Prod.fst).nodup_iff.1 hnodup)]

/-- The names listed in a record are those of its members in every order. -/
theorem perm_map_fst_order (members : List (String × Value)) :
    ((way.order (arrangeMembers way members)).map Prod.fst).Perm (members.map Prod.fst) := by
  rw [← map_fst_arrangeMembers way members]
  exact (way.perm _).map Prod.fst

theorem lookup_order (hnodup : (members.map Prod.fst).Nodup) (name : String) :
    (way.order (arrangeMembers way members)).lookup name =
      (members.lookup name).map (arrange way) := by
  have hordered := (perm_map_fst_order way members).nodup_iff.2 hnodup
  rw [lookup_eq_of_perm (way.perm _) hordered, lookup_arrangeMembers]

end LoaderGen.Value

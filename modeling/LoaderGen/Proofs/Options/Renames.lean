import LoaderGen.Options.Renames
import LoaderGen.Proofs.Lookup

/-!
# Renames of two documents

Every name stands in renames once at most. So merging two of them asks the second ones for a name,
and the first ones only where the second have none.
-/

namespace LoaderGen.Renames

variable {renames : Renames} {name target key : String}

theorem find?_set :
    (renames.set name target).find? key = if name = key then some target else renames.find? key := by
  rw [find?, lookup_eq_find?, set, find?_insertAscending, find?, lookup_eq_find?]
  by_cases hkey : name = key <;> simp [hkey]

/-- Setting renames one after the other, each name once, is to look among them first. -/
theorem find?_setAll (renames : Renames) {more : List (String × String)}
    (h : IsAscending Prod.fst more) (key : String) :
    (renames.setAll more).find? key = (more.lookup key).or (renames.find? key) := by
  induction more generalizing renames with
  | nil => rfl
  | cons entry more ih =>
      obtain ⟨name, target⟩ := entry
      have hset : (renames.setAll ((name, target) :: more)).find? key =
          (more.lookup key).or ((renames.set name target).find? key) :=
        ih (renames.set name target) (List.pairwise_cons.1 h).2
      rw [hset, find?_set]
      by_cases hkey : name = key
      · subst hkey
        have honce : name ∉ more.map Prod.fst := (List.nodup_cons.1 h.nodup_keys).1
        have hnone : more.lookup name = none := by
          rw [List.lookup_eq_none_iff]
          intro other hother
          rw [bne_iff_ne]
          rintro rfl
          exact honce (List.mem_map_of_mem hother)
        rw [if_pos rfl, hnone, Option.none_or, List.lookup_cons_self, Option.some_or]
      · rw [if_neg hkey, List.lookup_cons, beq_false_of_ne (Ne.symm hkey)]

theorem find?_merge (renames others : Renames) (key : String) :
    (renames.merge others).find? key = (others.find? key).or (renames.find? key) :=
  find?_setAll renames others.sorted key

end LoaderGen.Renames

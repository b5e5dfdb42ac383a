import LoaderGen.Plan.Imports
import LoaderGen.Proofs.Lookup
import Mathlib.Data.List.Perm.Basic

/-!
# What a set of imports holds

A set of imports is known by the import that it holds under each path. Asking for one more changes
what it holds under that path alone, and only where it holds nothing yet, so after any requests it
holds the first import asked for under each path.
-/

namespace LoaderGen.ImportSet

variable {set : ImportSet} {imp : Import} {path : String}

@[simp] theorem find?_empty (path : String) : (∅ : ImportSet).find? path = none := rfl

theorem find?_push :
    (set.push imp).find? path = (set.find? path).or ([imp].find? (·.path == path)) := by
  unfold push
  by_cases hpath : imp.path = path
  · subst hpath
    split
    · next hheld =>
      obtain ⟨held, hfind⟩ := Option.isSome_iff_exists.1 hheld
      rw [hfind, Option.some_or]
    · next hfree =>
      rw [Bool.not_eq_true, Option.isSome_eq_false_iff, Option.isNone_iff_eq_none] at hfree
      rw [hfree, find?, find?_insertAscending, ← find?, hfree, Option.or_none, Option.none_or]
  · have hother : [imp].find? (·.path == path) = none := by simp [hpath]
    rw [hother, Option.or_none]
    split
    · rfl
    · rw [find?, find?_insertAscending, hother, Option.none_or, ← find?]

/-- After any requests the first import asked for under a path is held, unless one was before. -/
theorem find?_foldl_push (set : ImportSet) (asked : List Import) (path : String) :
    (asked.foldl push set).find? path = (set.find? path).or (asked.find? (·.path == path)) := by
  induction asked generalizing set with
  | nil => simp
  | cons imp rest ih =>
      rw [List.foldl_cons, ih, find?_push, Option.or_assoc, ← List.find?_append,
        List.singleton_append]

theorem toList_perm (set : ImportSet) : set.toList.Perm set.imports :=
  List.filter_append_perm Import.isStandard set.imports

theorem nodup_paths (set : ImportSet) : (set.imports.map Import.path).Nodup :=
  set.sorted.nodup_keys

theorem nodup_paths_toList (set : ImportSet) : (set.toList.map Import.path).Nodup :=
  (set.toList_perm.map Import.path).nodup_iff.2 set.nodup_paths

theorem mem_toList : imp ∈ set.toList ↔ set.find? imp.path = some imp := by
  rw [set.toList_perm.mem_iff, find?, find?_key_eq_some set.nodup_paths]
  simp

theorem mem_paths_toList : path ∈ set.toList.map Import.path ↔ (set.find? path).isSome = true := by
  rw [List.mem_map, Option.isSome_iff_exists]
  constructor
  · rintro ⟨imp, himp, rfl⟩
    exact ⟨imp, mem_toList.1 himp⟩
  · rintro ⟨imp, himp⟩
    have hpath : imp.path = path := by simpa using List.find?_some himp
    subst hpath
    exact ⟨imp, mem_toList.2 himp, rfl⟩

end LoaderGen.ImportSet

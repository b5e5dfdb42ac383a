import LoaderGen.Model.Numbering
import Mathlib.Data.List.Nodup
import Mathlib.Data.List.Perm.Subperm
import Mathlib.Order.Bounds.Defs

/-!
# Numbered names are distinct

Names are given one after the other. A name that is new is given as it is, and one that was given
before gets the least number from two on that makes it new. The number can make it the same as a
name that comes later, which then is no longer new and gets a number itself. What a name is given
depends on the names given before it alone.
-/

namespace LoaderGen.Numbering

/-- What a name is given after the earlier ones. -/
structure IsNumbered (earlier : List String) (name given : String) : Prop where
  of_not_mem : name ∉ earlier → given = name
  of_mem : name ∈ earlier →
    ∃ n, IsLeast {n : Nat | 2 ≤ n ∧ name ++ toString n ∉ earlier} n ∧ given = name ++ toString n

theorem numbered_injective (name : String) :
    Function.Injective fun n : Nat => name ++ toString n := by
  intro m n h
  have htext : toString m = toString n := (String.append_right_inj name).1 h
  rw [Nat.toString_eq_ofList_toDigits, Nat.toString_eq_ofList_toDigits] at htext
  have hdigits : Nat.toDigits 10 m = Nat.toDigits 10 n := String.ofList_injective htext
  calc m = Nat.ofDigitChars 10 (Nat.toDigits 10 m) 0 := Nat.ofDigitChars_ten_toDigits.symm
    _ = Nat.ofDigitChars 10 (Nat.toDigits 10 n) 0 := by rw [hdigits]
    _ = n := Nat.ofDigitChars_ten_toDigits

/-- Among one number more than there are names taken, one is free. -/
theorem exists_not_mem (taken : List String) (name : String) :
    ∃ n ∈ List.range (taken.length + 1), name ++ toString (n + 2) ∉ taken := by
  by_contra hall
  push Not at hall
  have hnodup : ((List.range (taken.length + 1)).map fun n => name ++ toString (n + 2)).Nodup := by
    refine List.nodup_range.map fun m n h => ?_
    have := numbered_injective name h
    omega
  have hsub : (List.range (taken.length + 1)).map (fun n => name ++ toString (n + 2)) ⊆ taken := by
    intro numbered hnumbered
    obtain ⟨n, hn, rfl⟩ := List.mem_map.1 hnumbered
    exact hall n hn
  have hlength := (List.subperm_of_subset hnodup hsub).length_le
  rw [List.length_map, List.length_range] at hlength
  omega

theorem fresh_of_mem {taken : List String} {name : String} (h : name ∈ taken) :
    ∃ n, IsLeast {n : Nat | 2 ≤ n ∧ name ++ toString n ∉ taken} n ∧
      fresh taken name = name ++ toString n := by
  obtain ⟨free, hfree, hnew⟩ := exists_not_mem taken name
  have hfound : ((List.range (taken.length + 1)).find? fun n =>
      ! taken.contains (name ++ toString (n + 2))).isSome = true :=
    List.find?_isSome.2 ⟨free, hfree, by simpa using hnew⟩
  obtain ⟨n, hn⟩ := Option.isSome_iff_exists.1 hfound
  obtain ⟨hout, -, hbefore⟩ := List.find?_range_eq_some.1 hn
  refine ⟨n + 2, ⟨⟨by omega, by simpa using hout⟩, ?_⟩, ?_⟩
  · intro m hm
    obtain ⟨hm, hmnew⟩ := hm
    by_contra hlt
    have htaken := hbefore (m - 2) (by omega)
    rw [Nat.sub_add_cancel hm] at htaken
    exact hmnew (by simpa using htaken)
  · have hfind : (((List.range (taken.length + 1)).map fun n => name ++ toString (n + 2)).find?
        (! taken.contains ·)) = some (name ++ toString (n + 2)) := by
      rw [List.find?_map, Option.map_eq_some_iff]
      exact ⟨n, hn, rfl⟩
    simp only [fresh, List.contains_eq_mem, h, decide_true, if_true] at hfind ⊢
    rw [hfind, Option.getD_some]

theorem isNumbered_fresh (taken : List String) (name : String) :
    IsNumbered taken name (fresh taken name) where
  of_not_mem h := by rw [fresh, if_neg (by simpa using h)]
  of_mem := fresh_of_mem

theorem IsNumbered.not_mem {earlier : List String} {name given : String}
    (h : IsNumbered earlier name given) : given ∉ earlier := by
  by_cases hname : name ∈ earlier
  · obtain ⟨n, hleast, rfl⟩ := h.of_mem hname
    exact hleast.1.2
  · rw [h.of_not_mem hname]
    exact hname

/-- The order in which the earlier names were given does not matter. -/
theorem IsNumbered.reverse {earlier : List String} {name given : String}
    (h : IsNumbered earlier.reverse name given) : IsNumbered earlier name given where
  of_not_mem hname := h.of_not_mem (by simpa using hname)
  of_mem hname := by simpa using h.of_mem (by simpa using hname)

theorem distinctFrom_append (taken names more : List String) :
    distinctFrom taken (names ++ more) =
      distinctFrom taken names ++
        distinctFrom ((distinctFrom taken names).reverse ++ taken) more := by
  induction names generalizing taken with
  | nil => rfl
  | cons name names ih => simp [distinctFrom, ih]

theorem nodup_distinctFrom (taken names : List String) :
    (distinctFrom taken names).Nodup ∧ taken.Disjoint (distinctFrom taken names) := by
  induction names generalizing taken with
  | nil => exact ⟨List.nodup_nil, List.disjoint_nil_right taken⟩
  | cons name names ih =>
      obtain ⟨hnodup, hdisjoint⟩ := ih (fresh taken name :: taken)
      obtain ⟨hfresh, hdisjoint⟩ := List.disjoint_cons_left.1 hdisjoint
      have hnew := (isNumbered_fresh taken name).not_mem
      exact ⟨List.nodup_cons.2 ⟨hfresh, hnodup⟩, List.disjoint_cons_right.2 ⟨hnew, hdisjoint⟩⟩

theorem nodup_distinct (names : List String) : (distinct names).Nodup :=
  (nodup_distinctFrom [] names).1

theorem length_distinct (names : List String) : (distinct names).length = names.length :=
  length_distinctFrom [] names

/-- The first names are given what they would be given without those after them. -/
theorem take_distinctFrom (k : Nat) (taken names : List String) :
    (distinctFrom taken names).take k = distinctFrom taken (names.take k) := by
  induction names generalizing taken k with
  | nil => simp [distinctFrom]
  | cons name names ih =>
      cases k with
      | zero => rfl
      | succ k => simp [distinctFrom, ih]

/-- What a name is given, wherever it stands among the others. -/
theorem distinct_append_cons (before after : List String) (name : String) :
    ∃ given rest, distinct (before ++ name :: after) = distinct before ++ given :: rest ∧
      IsNumbered (distinct before) name given := by
  refine ⟨_, _, distinctFrom_append [] before (name :: after), ?_⟩
  have hfresh := isNumbered_fresh (distinct before).reverse name
  rw [List.append_nil]
  exact hfresh.reverse

end LoaderGen.Numbering

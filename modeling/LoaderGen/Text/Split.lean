/-!
# Cutting text at a separator

Segments of a list of characters between the occurrences of one separator: all of them, the last
one, and what stands around the last separator.
-/

namespace LoaderGen.Text

/-- A text is cut where its first characters that pass a test end. -/
theorem takeWhile_append_of_head {p : Char → Bool} {front rest : List Char}
    (hfront : ∀ c ∈ front, p c = true) (hrest : ∀ c ∈ rest.head?, p c = false) :
    (front ++ rest).takeWhile p = front ∧ (front ++ rest).dropWhile p = rest := by
  have hstop : rest.takeWhile p = [] ∧ rest.dropWhile p = rest := by
    cases rest with
    | nil => exact ⟨rfl, rfl⟩
    | cons c rest =>
        have hc : ¬ p c = true := by simp [hrest c rfl]
        exact ⟨List.takeWhile_cons_of_neg hc, List.dropWhile_cons_of_neg hc⟩
  rw [List.takeWhile_append_of_pos hfront, List.dropWhile_append_of_pos hfront, hstop.1, hstop.2,
    List.append_nil]
  exact ⟨rfl, rfl⟩

theorem splitOn_cons_self (separator : Char) (cs : List Char) :
    (separator :: cs).splitOn separator = [] :: cs.splitOn separator :=
  List.splitOn_append_cons_self_of_not_mem List.not_mem_nil cs

theorem splitOn_cons_of_ne {separator c : Char} (h : c ≠ separator) (cs : List Char) :
    ∃ segment more, cs.splitOn separator = segment :: more ∧
      (c :: cs).splitOn separator = (c :: segment) :: more := by
  cases hcs : cs.splitOn separator with
  | nil => exact absurd hcs (List.splitOn_ne_nil separator cs)
  | cons segment more =>
      refine ⟨segment, more, rfl, ?_⟩
      rw [List.splitOn_cons_eq_if_modifyHead, if_neg (by simpa using h), hcs, List.modifyHead_cons]

theorem not_mem_of_mem_splitOn {separator : Char} {cs segment : List Char}
    (h : segment ∈ cs.splitOn separator) : separator ∉ segment := by
  induction cs generalizing segment with
  | nil =>
    rw [List.splitOn_nil, List.mem_singleton] at h
    rw [h]
    exact List.not_mem_nil
  | cons c rest ih =>
    by_cases hc : c = separator
    · rw [hc, splitOn_cons_self] at h
      rcases List.mem_cons.1 h with rfl | h
      · exact List.not_mem_nil
      · exact ih h
    · obtain ⟨head, more, hrest, hcons⟩ := splitOn_cons_of_ne hc rest
      rw [hcons] at h
      rw [hrest] at ih
      rcases List.mem_cons.1 h with rfl | h
      · rw [List.mem_cons, not_or]
        exact ⟨Ne.symm hc, ih List.mem_cons_self⟩
      · exact ih (List.mem_cons_of_mem head h)

/-- Together the segments are the text without its separators. -/
theorem flatten_splitOn (separator : Char) (cs : List Char) :
    (cs.splitOn separator).flatten = cs.filter (· != separator) := by
  induction cs with
  | nil => rfl
  | cons c cs ih =>
      by_cases h : c = separator
      · rw [h, splitOn_cons_self, List.flatten_cons, ih, List.nil_append,
          List.filter_cons_of_neg (by simp)]
      · obtain ⟨segment, more, hcs, hcons⟩ := splitOn_cons_of_ne h cs
        rw [hcs, List.flatten_cons] at ih
        rw [hcons, List.flatten_cons, List.cons_append, ih, List.filter_cons_of_pos (by simp [h])]

/-- The only way to write the text as segments without the separator, joined by it. -/
theorem splitOn_eq_iff {separator : Char} {cs : List Char} {segments : List (List Char)} :
    cs.splitOn separator = segments ↔
      segments ≠ [] ∧ (∀ segment ∈ segments, separator ∉ segment) ∧
        [separator].intercalate segments = cs := by
  constructor
  · rintro rfl
    exact ⟨List.splitOn_ne_nil separator cs, fun segment => not_mem_of_mem_splitOn,
      List.intercalate_splitOn separator⟩
  · rintro ⟨hne, hfree, rfl⟩
    exact List.splitOn_intercalate separator hfree hne

/-- The segment after the last separator: the whole text when there is none. -/
def lastSegment (separator : Char) (cs : List Char) : List Char :=
  (cs.reverse.takeWhile (· != separator)).reverse

theorem forall_mem_ne {separator : Char} {cs : List Char} (h : separator ∉ cs) :
    ∀ c ∈ cs, (c != separator) = true := by
  intro c hc
  rw [bne_iff_ne]
  intro heq
  exact h (heq ▸ hc)

theorem eq_of_dropWhile_eq_cons {separator c : Char} {cs rest : List Char}
    (h : cs.dropWhile (· != separator) = c :: rest) : c = separator := by
  have hne : cs.dropWhile (· != separator) ≠ [] := by simp [h]
  simpa [h] using List.head_dropWhile_not (· != separator) hne

theorem not_mem_lastSegment (separator : Char) (cs : List Char) :
    separator ∉ lastSegment separator cs := by
  intro hmem
  have hall : (cs.reverse.takeWhile (· != separator)).all (· != separator) = true :=
    List.all_takeWhile
  simpa using List.all_eq_true.1 hall separator (List.mem_reverse.1 hmem)

theorem lastSegment_eq_iff {separator : Char} {cs segment : List Char} :
    lastSegment separator cs = segment ↔
      separator ∉ segment ∧ ∃ before, cs = before ++ segment ∧
        (before = [] ∨ before.getLast? = some separator) := by
  constructor
  · rintro rfl
    refine ⟨not_mem_lastSegment separator cs,
      (cs.reverse.dropWhile (· != separator)).reverse, ?_, ?_⟩
    · rw [lastSegment, ← List.reverse_append, List.takeWhile_append_dropWhile, List.reverse_reverse]
    · rw [List.reverse_eq_nil_iff, List.getLast?_reverse]
      cases hrest : cs.reverse.dropWhile (· != separator) with
      | nil => exact .inl rfl
      | cons c before => exact .inr (congrArg some (eq_of_dropWhile_eq_cons hrest))
  · rintro ⟨hnone, before, rfl, hbefore⟩
    have hstop : ∀ c ∈ before.reverse.head?, (c != separator) = false := by
      rw [List.head?_reverse]
      rcases hbefore with rfl | hlast
      · simp
      · simp [hlast]
    have hfree : separator ∉ segment.reverse := mt List.mem_reverse.1 hnone
    rw [lastSegment, List.reverse_append,
      (takeWhile_append_of_head (forall_mem_ne hfree) hstop).1, List.reverse_reverse]

/-- What stands before and after the last separator. -/
def splitAtLast? (separator : Char) (cs : List Char) : Option (List Char × List Char) :=
  match cs.reverse.dropWhile (· != separator) with
  | [] => none
  | _ :: before => some (before.reverse, lastSegment separator cs)

/-- Cut at the last separator, the text has no further one on the right. -/
theorem splitAtLast?_eq_some {separator : Char} {cs left right : List Char} :
    splitAtLast? separator cs = some (left, right) ↔
      cs = left ++ separator :: right ∧ separator ∉ right := by
  constructor
  · intro h
    have hcut : cs.reverse.takeWhile (· != separator) ++ cs.reverse.dropWhile (· != separator) =
        cs.reverse := List.takeWhile_append_dropWhile
    unfold splitAtLast? at h
    split at h
    · cases h
    · next c before hrest =>
      obtain ⟨rfl, rfl⟩ := Prod.mk.inj (Option.some.inj h)
      rw [hrest, eq_of_dropWhile_eq_cons hrest] at hcut
      refine ⟨?_, not_mem_lastSegment separator cs⟩
      simpa [lastSegment] using (congrArg List.reverse hcut).symm
  · rintro ⟨rfl, hnone⟩
    have hreverse : (left ++ separator :: right).reverse =
        right.reverse ++ separator :: left.reverse := by simp
    have hfree : separator ∉ right.reverse := mt List.mem_reverse.1 hnone
    obtain ⟨htake, hdrop⟩ := takeWhile_append_of_head (forall_mem_ne hfree)
      (show ∀ c ∈ (separator :: left.reverse).head?, (c != separator) = false by simp)
    unfold splitAtLast? lastSegment
    rw [hreverse, hdrop, htake]
    simp

/-- The text without the given character at its end. -/
def trimEnd (c : Char) (cs : List Char) : List Char :=
  (cs.reverse.dropWhile (· == c)).reverse

theorem trimEnd_eq_iff {c : Char} {cs kept : List Char} :
    trimEnd c cs = kept ↔
      kept.getLast? ≠ some c ∧ ∃ count, cs = kept ++ List.replicate count c := by
  constructor
  · rintro rfl
    have hcut : cs.reverse.takeWhile (· == c) ++ cs.reverse.dropWhile (· == c) = cs.reverse :=
      List.takeWhile_append_dropWhile
    constructor
    · rw [trimEnd, List.getLast?_reverse]
      intro hhead
      have hne : cs.reverse.dropWhile (· == c) ≠ [] := by
        intro hnil
        simp [hnil] at hhead
      have hnot := List.head_dropWhile_not (· == c) hne
      rw [List.head?_eq_some_head hne, Option.some_inj] at hhead
      simp [hhead] at hnot
    · have hall : cs.reverse.takeWhile (· == c) =
          List.replicate (cs.reverse.takeWhile (· == c)).length c := by
        rw [List.eq_replicate_iff]
        refine ⟨rfl, fun other hother => ?_⟩
        have hpass : (cs.reverse.takeWhile (· == c)).all (· == c) = true := List.all_takeWhile
        simpa using List.all_eq_true.1 hpass other hother
      refine ⟨(cs.reverse.takeWhile (· == c)).length, ?_⟩
      rw [hall] at hcut
      simpa [trimEnd] using (congrArg List.reverse hcut).symm
  · rintro ⟨hlast, count, rfl⟩
    have hstop : ∀ last ∈ kept.reverse.head?, (last == c) = false := by
      intro last hmem
      rw [List.head?_reverse, Option.mem_def] at hmem
      rw [beq_eq_false_iff_ne]
      intro heq
      exact hlast (heq ▸ hmem)
    rw [trimEnd, List.reverse_append, List.reverse_replicate,
      (takeWhile_append_of_head (by simp) hstop).2, List.reverse_reverse]

end LoaderGen.Text

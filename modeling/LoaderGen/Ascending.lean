/-!
# Lists in the order of a key

Entries that are told apart by a key, and stand in the ascending order of their keys. One more entry
is put in its place, or in the place of the entry that has its key. The order is kept, for keys of
any linear order, and what a look-up finds afterwards does not depend on it.
-/

namespace LoaderGen

variable {α κ : Type} [LT κ]

/-- The entries stand in ascending order of their keys, so that no key stands twice. -/
def IsAscending (key : α → κ) (entries : List α) : Prop :=
  entries.Pairwise fun entry other => key entry < key other

theorem IsAscending.nodup_keys [Std.Irrefl fun a b : κ => a < b] {key : α → κ} {entries : List α}
    (h : IsAscending key entries) : (entries.map key).Nodup := by
  refine List.pairwise_map.2 (h.imp fun hlt heq => ?_)
  rw [heq] at hlt
  exact Std.lt_irrefl hlt

section Insertion

variable [DecidableEq κ] [DecidableLT κ]

/-- The entries with one more, in its place or in that of the entry with its key. -/
def insertAscending (key : α → κ) (entry : α) : List α → List α
  | [] => [entry]
  | other :: rest =>
    if key entry = key other then entry :: rest
    else if key entry < key other then entry :: other :: rest
    else other :: insertAscending key entry rest

variable {key : α → κ} {entry other : α} {entries : List α}

theorem eq_or_mem_of_mem_insertAscending (h : other ∈ insertAscending key entry entries) :
    other = entry ∨ other ∈ entries := by
  induction entries with
  | nil => exact .inl (List.mem_singleton.1 h)
  | cons first rest ih =>
      unfold insertAscending at h
      split at h
      · exact (List.mem_cons.1 h).imp_right (List.mem_cons_of_mem first)
      · split at h
        · exact List.mem_cons.1 h
        · rcases List.mem_cons.1 h with rfl | hrest
          · exact .inr List.mem_cons_self
          · exact (ih hrest).imp_right (List.mem_cons_of_mem first)

/-- Where a key belongs to one entry alone, no entry is put in the place of another one. -/
theorem mem_insertAscending (hkey : ∀ a b, key a = key b → a = b) :
    other ∈ insertAscending key entry entries ↔ other = entry ∨ other ∈ entries := by
  refine ⟨eq_or_mem_of_mem_insertAscending, fun h => ?_⟩
  induction entries with
  | nil => exact List.mem_singleton.2 (h.resolve_right List.not_mem_nil)
  | cons first rest ih =>
      unfold insertAscending
      split
      · next heq =>
        rw [hkey entry first heq] at h ⊢
        exact List.mem_cons.2 (h.elim .inl List.mem_cons.1)
      · split
        · exact List.mem_cons.2 h
        · rw [List.mem_cons] at h ⊢
          exact (or_left_comm.1 h).imp_right ih

theorem find?_insertAscending (k : κ) :
    (insertAscending key entry entries).find? (key · == k) =
      ([entry].find? (key · == k)).or (entries.find? (key · == k)) := by
  induction entries with
  | nil => simp [insertAscending]
  | cons first rest ih =>
      unfold insertAscending
      split
      · next heq =>
        by_cases hk : key entry = k
        · simp [hk]
        · have hfirst : ¬ key first = k := heq ▸ hk
          simp [hk, hfirst]
      · next hne =>
        split
        · by_cases hk : key entry = k <;> simp [hk]
        · by_cases hfirst : key first = k
          · have hk : ¬ key entry = k := fun hk => hne (hk.trans hfirst.symm)
            simp [hk, hfirst]
          · have hskip : ∀ others : List α,
                (first :: others).find? (key · == k) = others.find? (key · == k) :=
              fun others => List.find?_cons_of_neg (by simpa using hfirst)
            rw [hskip, hskip, ih]

variable [LE κ] [Std.IsLinearOrder κ] [Std.LawfulOrderLT κ]

theorem IsAscending.insert (h : IsAscending key entries) :
    IsAscending key (insertAscending key entry entries) := by
  induction entries with
  | nil => exact List.pairwise_singleton _ entry
  | cons first rest ih =>
      obtain ⟨hfirst, hrest⟩ := List.pairwise_cons.1 h
      unfold insertAscending
      split
      · next heq =>
        refine List.pairwise_cons.2 ⟨fun other hother => ?_, hrest⟩
        rw [heq]
        exact hfirst other hother
      · next hne =>
        split
        · next hless =>
          refine List.pairwise_cons.2 ⟨List.forall_mem_cons.2 ⟨hless, ?_⟩, h⟩
          intro other hother
          exact Std.lt_trans hless (hfirst other hother)
        · next hnot =>
          -- The entry goes in further back, so the first one stays the least.
          have hgreater : key first < key entry :=
            Std.lt_of_le_of_ne (Std.not_lt.1 hnot) (Ne.symm hne)
          refine List.pairwise_cons.2 ⟨fun other hother => ?_, ih hrest⟩
          rcases eq_or_mem_of_mem_insertAscending hother with rfl | hother
          · exact hgreater
          · exact hfirst other hother

end Insertion

end LoaderGen

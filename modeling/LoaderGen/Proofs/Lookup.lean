import Mathlib.Data.List.Nodup

/-!
# Looking up by a key

A list is searched for the first entry that has a property. Where the property is to have a key, and
no two entries have one key, it is the entry of that key.
-/

namespace LoaderGen

/-- The entry is the first of the list that has the property. -/
def IsFirst {α : Type} (p : α → Prop) (entries : List α) (entry : α) : Prop :=
  ∃ before after, entries = before ++ entry :: after ∧ p entry ∧ ∀ other ∈ before, ¬ p other

theorem IsFirst.has {α : Type} {p : α → Prop} {entries : List α} {entry : α}
    (h : IsFirst p entries entry) : p entry := by
  obtain ⟨before, after, -, hp, -⟩ := h
  exact hp

theorem IsFirst.mem {α : Type} {p : α → Prop} {entries : List α} {entry : α}
    (h : IsFirst p entries entry) : entry ∈ entries := by
  obtain ⟨before, after, rfl, -, -⟩ := h
  exact List.mem_append_right before List.mem_cons_self

section Search

variable {α : Type} {p : α → Prop} {q r : α → Bool} {entries : List α}

/-- Searching the entries of one kind finds the first entry that is of it and is looked for. -/
theorem find?_filter_eq_some (h : ∀ a, p a ↔ r a = true ∧ q a = true) {entry : α} :
    (entries.filter r).find? q = some entry ↔ IsFirst p entries entry := by
  rw [List.find?_filter, List.find?_eq_some_iff_append, decide_eq_true_eq, ← h]
  simp only [← h, Bool.not_eq_true', decide_eq_false_iff_not]
  constructor
  · rintro ⟨hp, before, after, hentries, hbefore⟩
    exact ⟨before, after, hentries, hp, hbefore⟩
  · rintro ⟨before, after, hentries, hp, hbefore⟩
    exact ⟨hp, before, after, hentries, hbefore⟩

theorem find?_filter_eq_none (h : ∀ a, p a ↔ r a = true ∧ q a = true) :
    (entries.filter r).find? q = none ↔ ∀ entry ∈ entries, ¬ p entry := by
  simp only [List.find?_filter, List.find?_eq_none, decide_eq_true_eq, ← h]

theorem find?_eq_some_iff_isFirst (h : ∀ a, p a ↔ q a = true) {entry : α} :
    entries.find? q = some entry ↔ IsFirst p entries entry := by
  have hall : ∀ a, p a ↔ (fun _ => true) a = true ∧ q a = true := by simp [h]
  rw [← find?_filter_eq_some hall, List.filter_true]

/-- Entries can be left out before a search that does not find one of them. -/
theorem find?_filter_eq_of_found (h : ∀ entry, entries.find? q = some entry → r entry = true) :
    (entries.filter r).find? q = entries.find? q := by
  induction entries with
  | nil => rfl
  | cons entry rest ih =>
      cases hq : q entry with
      | true =>
          have hkept := h entry (List.find?_cons_of_pos hq)
          rw [List.filter_cons_of_pos hkept, List.find?_cons_of_pos hq, List.find?_cons_of_pos hq]
      | false =>
          have hskip : ¬ q entry = true := by simp [hq]
          rw [List.find?_cons_of_neg hskip] at h ⊢
          rw [← ih h, List.filter_cons]
          split
          · exact List.find?_cons_of_neg hskip
          · rfl

/-- Entries that a search never looks for can be left out before it. -/
theorem find?_filter_eq_find? (h : ∀ a, q a = true → r a = true) :
    (entries.filter r).find? q = entries.find? q :=
  find?_filter_eq_of_found fun _ hfound => h _ (List.find?_some hfound)

/-- A search for entries of one kind finds the same in two lists that have the same entries of it in
the same order. -/
theorem find?_filter_congr (h : ∀ a, q a = true → r a = true) {others : List α}
    (hkind : entries.filter r = others.filter r) (s : α → Bool) :
    (entries.filter s).find? q = (others.filter s).find? q := by
  calc (entries.filter s).find? q
      = ((entries.filter s).filter r).find? q := (find?_filter_eq_find? h).symm
    _ = ((entries.filter r).filter s).find? q := by rw [List.filter_comm]
    _ = ((others.filter r).filter s).find? q := by rw [hkind]
    _ = ((others.filter s).filter r).find? q := by rw [List.filter_comm]
    _ = (others.filter s).find? q := find?_filter_eq_find? h

end Search

variable {α κ : Type} [BEq κ] [LawfulBEq κ]

theorem lookup_eq_find? (entries : List (κ × α)) (k : κ) :
    entries.lookup k = (entries.find? (·.1 == k)).map Prod.snd := by
  induction entries with
  | nil => rfl
  | cons entry rest ih =>
      rw [List.lookup_cons, List.find?_cons, ih, Bool.beq_comm]
      cases entry.1 == k <;> rfl

theorem mem_of_lookup_eq_some {entries : List (κ × α)} {k : κ} {a : α}
    (h : entries.lookup k = some a) : (k, a) ∈ entries := by
  obtain ⟨before, after, rfl, -⟩ := List.lookup_eq_some_iff.1 h
  exact List.mem_append_right before List.mem_cons_self

theorem find?_key_eq_some {key : α → κ} {entries : List α} (h : (entries.map key).Nodup) {k : κ}
    {entry : α} :
    entries.find? (key · == k) = some entry ↔ entry ∈ entries ∧ key entry = k := by
  constructor
  · intro hfound
    exact ⟨List.mem_of_find?_eq_some hfound, by simpa using List.find?_some hfound⟩
  · rintro ⟨hmem, rfl⟩
    have hexists : (entries.find? (key · == key entry)).isSome = true :=
      List.find?_isSome.2 ⟨entry, hmem, beq_self_eq_true (key entry)⟩
    obtain ⟨found, hfound⟩ := Option.isSome_iff_exists.1 hexists
    have hkey : key found = key entry := by simpa using List.find?_some hfound
    rw [hfound, List.inj_on_of_nodup_map h (List.mem_of_find?_eq_some hfound) hmem hkey]

end LoaderGen

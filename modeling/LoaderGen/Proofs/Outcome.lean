import LoaderGen.Proofs.Lookup
import Mathlib.Data.List.Forall2

/-!
# Outcomes of steps that can fail

How a step followed by another one comes to a value or to a fault, and how a list of steps does. A
list of steps gives values exactly when each of its steps gives one, so a list whose steps have been
checked one by one cannot fail later.
-/

namespace LoaderGen

variable {α β ε δ : Type}

theorem bind_eq_ok {x : Except ε α} {f : α → Except ε β} {b : β} :
    x >>= f = .ok b ↔ ∃ a, x = .ok a ∧ f a = .ok b := by
  cases x with
  | error e => simp [bind, Except.bind]
  | ok a => simp [bind, Except.bind]

theorem bind_eq_error {x : Except ε α} {f : α → Except ε β} {e : ε} :
    x >>= f = .error e ↔ x = .error e ∨ ∃ a, x = .ok a ∧ f a = .error e := by
  cases x with
  | error e => simp [bind, Except.bind]
  | ok a => simp [bind, Except.bind]

theorem map_eq_ok {x : Except ε α} {f : α → β} {b : β} :
    x.map f = .ok b ↔ ∃ a, x = .ok a ∧ f a = b := by
  cases x with
  | error e => simp [Except.map]
  | ok a => simp [Except.map]

theorem map_eq_error {x : Except ε α} {f : α → β} {e : ε} : x.map f = .error e ↔ x = .error e := by
  cases x with
  | error e => simp [Except.map]
  | ok a => simp [Except.map]

theorem mapError_eq_ok {x : Except ε α} {f : ε → δ} {a : α} : x.mapError f = .ok a ↔ x = .ok a := by
  cases x with
  | error e => simp [Except.mapError]
  | ok a => simp [Except.mapError]

theorem mapError_eq_error {x : Except ε α} {f : ε → δ} {d : δ} :
    x.mapError f = .error d ↔ ∃ e, x = .error e ∧ f e = d := by
  cases x with
  | error e => simp [Except.mapError]
  | ok a => simp [Except.mapError]

theorem mapM_eq_ok {f : α → Except ε β} {as : List α} {bs : List β} :
    as.mapM f = .ok bs ↔ List.Forall₂ (fun a b => f a = .ok b) as bs := by
  induction as generalizing bs with
  | nil =>
      rw [List.mapM_nil, List.forall₂_nil_left_iff]
      exact ⟨fun h => (Except.ok.inj h).symm, fun h => h ▸ rfl⟩
  | cons a as ih =>
      rw [List.mapM_cons, List.forall₂_cons_left_iff]
      simp only [bind_eq_ok, ih]
      constructor
      · rintro ⟨b, hb, rest, hrest, h⟩
        exact ⟨b, rest, hb, hrest, (Except.ok.inj h).symm⟩
      · rintro ⟨b, rest, hb, hrest, rfl⟩
        exact ⟨b, hb, rest, hrest, rfl⟩

theorem exists_of_mem_forall₂ {R : α → β → Prop} {as : List α} {bs : List β}
    (h : List.Forall₂ R as bs) {b : β} (hb : b ∈ bs) : ∃ a ∈ as, R a b := by
  induction h with
  | nil => cases hb
  | cons hfirst _ ih =>
      obtain rfl | hrest := List.mem_cons.1 hb
      · exact ⟨_, List.mem_cons_self, hfirst⟩
      · obtain ⟨a, ha, hstep⟩ := ih hrest
        exact ⟨a, List.mem_cons_of_mem _ ha, hstep⟩

/-- What each step keeps of its argument, a list of steps keeps of its arguments. -/
theorem map_eq_of_mapM_eq_ok {γ : Type} {f : α → Except ε β} {g : α → γ} {h : β → γ} {as : List α}
    {bs : List β} (hkeep : ∀ a b, f a = .ok b → h b = g a) (hbs : as.mapM f = .ok bs) :
    bs.map h = as.map g := by
  have hsteps : List.Forall₂ (fun a b => f a = .ok b) as bs := mapM_eq_ok.1 hbs
  induction hsteps with
  | nil => rfl
  | cons hstep hrest ih =>
      rw [List.map_cons, List.map_cons, hkeep _ _ hstep, ih (mapM_eq_ok.2 hrest)]

/-- Leaving out steps leaves out their values, where the values show which steps are left out. -/
theorem mapM_filter_eq_ok {f : α → Except ε β} {p : α → Bool} {q : β → Bool} {as : List α}
    {bs : List β} (hkeep : ∀ a b, f a = .ok b → q b = p a) (hbs : as.mapM f = .ok bs) :
    (as.filter p).mapM f = .ok (bs.filter q) := by
  have hsteps : List.Forall₂ (fun a b => f a = .ok b) as bs := mapM_eq_ok.1 hbs
  rw [mapM_eq_ok]
  induction hsteps with
  | nil => exact .nil
  | @cons a b as bs hstep hrest ih =>
      have htail := ih (mapM_eq_ok.2 hrest)
      by_cases ha : p a = true
      · rw [List.filter_cons_of_pos ha, List.filter_cons_of_pos ((hkeep a b hstep).trans ha)]
        exact .cons hstep htail
      · have hb : ¬ q b = true := by rwa [hkeep a b hstep]
        rw [List.filter_cons_of_neg ha, List.filter_cons_of_neg hb]
        exact htail

theorem exists_mapM_eq_ok {f : α → Except ε β} {as : List α} :
    (∃ bs, as.mapM f = .ok bs) ↔ ∀ a ∈ as, ∃ b, f a = .ok b := by
  induction as with
  | nil => simp [pure, Except.pure]
  | cons a as ih =>
      simp only [mapM_eq_ok, List.forall₂_cons_left_iff, List.forall_mem_cons, ← ih]
      constructor
      · rintro ⟨-, b, bs, hb, hbs, -⟩
        exact ⟨⟨b, hb⟩, bs, hbs⟩
      · rintro ⟨⟨b, hb⟩, bs, hbs⟩
        exact ⟨b :: bs, b, bs, hb, hbs, rfl⟩

/-- The first step that fails ends a list of steps, and nothing after it is looked at. -/
theorem mapM_eq_error {f : α → Except ε β} {as : List α} {e : ε} :
    as.mapM f = .error e ↔
      ∃ before a after, as = before ++ a :: after ∧
        (∀ other ∈ before, ∃ b, f other = .ok b) ∧ f a = .error e := by
  induction as with
  | nil =>
      constructor
      · intro h
        cases h
      · intro h
        obtain ⟨before, a, after, hsplit, -⟩ := h
        have hne := List.append_ne_nil_of_right_ne_nil before (List.cons_ne_nil a after)
        exact absurd hsplit.symm hne
  | cons a as ih =>
      rw [List.mapM_cons]
      constructor
      · intro h
        rcases bind_eq_error.1 h with hfirst | ⟨b, hb, hrest⟩
        · exact ⟨[], a, as, rfl, List.forall_mem_nil _, hfirst⟩
        · have htail : as.mapM f = .error e := by
            rcases bind_eq_error.1 hrest with htail | ⟨bs, -, hdone⟩
            · exact htail
            · cases hdone
          obtain ⟨before, failing, after, rfl, hbefore, hfails⟩ := ih.1 htail
          exact ⟨a :: before, failing, after, rfl,
            List.forall_mem_cons.2 ⟨⟨b, hb⟩, hbefore⟩, hfails⟩
      · intro h
        obtain ⟨before, failing, after, hsplit, hbefore, hfails⟩ := h
        cases before with
        | nil =>
            cases hsplit
            exact bind_eq_error.2 (.inl hfails)
        | cons first before =>
            cases hsplit
            obtain ⟨⟨b, hb⟩, hbefore⟩ := List.forall_mem_cons.1 hbefore
            have htail := ih.2 ⟨before, failing, after, rfl, hbefore, hfails⟩
            exact bind_eq_error.2 (.inr ⟨b, hb, bind_eq_error.2 (.inl htail)⟩)

theorem exists_eq_ok_iff {x : Except ε α} : (∃ a, x = .ok a) ↔ ¬ ∃ e, x = .error e := by
  cases x with
  | error e => simp
  | ok a => simp

theorem mapM_eq_error_iff_isFirst {f : α → Except ε β} {as : List α} {e : ε} :
    as.mapM f = .error e ↔ ∃ a, IsFirst (fun a => ∃ e, f a = .error e) as a ∧ f a = .error e := by
  simp only [mapM_eq_error, exists_eq_ok_iff]
  constructor
  · rintro ⟨before, a, after, hsplit, hbefore, hfails⟩
    exact ⟨a, ⟨before, after, hsplit, ⟨e, hfails⟩, hbefore⟩, hfails⟩
  · rintro ⟨a, ⟨before, after, hsplit, -, hbefore⟩, hfails⟩
    exact ⟨before, a, after, hsplit, hbefore, hfails⟩

theorem toOption_eq_some {x : Except ε α} {a : α} : x.toOption = some a ↔ x = .ok a := by
  cases x with
  | error e => simp [Except.toOption]
  | ok a => simp [Except.toOption]

theorem exists_eq_ok_of_isOk {x : Except ε α} (h : x.isOk = true) : ∃ a, x = .ok a := by
  cases x with
  | error e => cases h
  | ok a => exact ⟨a, rfl⟩

end LoaderGen

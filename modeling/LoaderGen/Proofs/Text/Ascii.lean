import LoaderGen.Text.Casing

/-!
# ASCII text

The case of a text of ASCII characters is changed one character at a time. What holds of every ASCII
character, or of every character of a given text, is seen by trying them all.
-/

namespace LoaderGen.Text

theorem forall_ascii {p : Char → Prop} (h : ∀ n < 0x80, p (Char.ofNat n)) {c : Char}
    (hc : c.toNat < 0x80) : p c := by
  have hp := h c.toNat hc
  rwa [Char.ofNat_toNat] at hp

theorem forall_mem_of_all {p : Char → Prop} [DecidablePred p] {cs : List Char}
    (h : cs.all (fun c => decide (p c)) = true) : ∀ c ∈ cs, p c := by
  intro c hc
  exact of_decide_eq_true (List.all_eq_true.1 h c hc)

theorem ascii_of_le {c last : Char} (hc : c.val ≤ last.val) (hlast : last.toNat < 0x80) :
    c.toNat < 0x80 :=
  Nat.lt_of_le_of_lt (UInt32.le_iff_toNat_le.1 hc) hlast

theorem ascii_of_isLower {c : Char} (h : c.isLower = true) : c.toNat < 0x80 := by
  have hlast : c.val ≤ 'z'.val := of_decide_eq_true (Bool.and_eq_true_iff.1 h).2
  exact ascii_of_le hlast (by decide)

theorem ascii_of_isUpper {c : Char} (h : c.isUpper = true) : c.toNat < 0x80 := by
  have hlast : c.val ≤ 'Z'.val := (of_decide_eq_true h).2
  exact ascii_of_le hlast (by decide)

theorem ascii_of_isDigit {c : Char} (h : c.isDigit = true) : c.toNat < 0x80 := by
  have hlast : c.val ≤ '9'.val := of_decide_eq_true (Bool.and_eq_true_iff.1 h).2
  exact ascii_of_le hlast (by decide)

theorem ascii_of_isAlphanum {c : Char} (h : c.isAlphanum = true) : c.toNat < 0x80 := by
  change (c.isUpper || c.isLower || c.isDigit) = true at h
  rw [Bool.or_eq_true, Bool.or_eq_true] at h
  rcases h with (hupper | hlower) | hdigit
  · exact ascii_of_isUpper hupper
  · exact ascii_of_isLower hlower
  · exact ascii_of_isDigit hdigit

/-- A letter that lower case takes to a given one is that one or its capital. -/
theorem toLower_eq_iff {c : Char} (lower upper : Char) (hfirst : 'A'.toNat ≤ upper.toNat)
    (hlast : upper.toNat ≤ 'Z'.toNat) (hlower : lower.toNat = upper.toNat + 32) :
    c.toLower = lower ↔ c = lower ∨ c = upper := by
  unfold Char.toLower
  split
  · next hcapital =>
    simp only [ge_iff_le, UInt32.le_iff_toNat_le] at hcapital
    simp only [← Char.toNat_inj, Char.toNat, UInt32.toNat_add, UInt32.reduceSub,
      UInt32.reduceToNat, Char.reduceVal] at *
    omega
  · next hother =>
    simp only [ge_iff_le, UInt32.le_iff_toNat_le] at hother
    simp only [← Char.toNat_inj, Char.toNat, UInt32.reduceToNat, Char.reduceVal] at *
    omega

variable {cs : List Char}

theorem upper_ascii (h : ∀ c ∈ cs, c.toNat < 0x80) : upper cs = cs.map Char.toUpper := by
  induction cs with
  | nil => rfl
  | cons c rest ih =>
      have hrest := ih fun other hother => h other (List.mem_cons_of_mem c hother)
      rw [upper, List.flatMap_cons, upperOf_ascii (h c List.mem_cons_self), ← upper, hrest]
      rfl

theorem lowerAfter_ascii (h : ∀ c ∈ cs, c.toNat < 0x80) (before : List Char) :
    lowerAfter before cs = cs.map Char.toLower := by
  induction cs generalizing before with
  | nil => rfl
  | cons c rest ih =>
      have hc := h c List.mem_cons_self
      have hsigma : c ≠ 'Σ' := by
        rintro rfl
        exact absurd hc (by decide)
      rw [lowerAfter, if_neg hsigma, lowerOf_ascii hc,
        ih fun other hother => h other (List.mem_cons_of_mem c hother)]
      rfl

theorem lower_ascii (h : ∀ c ∈ cs, c.toNat < 0x80) : lower cs = cs.map Char.toLower :=
  lowerAfter_ascii h []

/-- An ASCII character that is not a capital stays in the lower case of any text. -/
theorem mem_lower {c : Char} (hc : c.toNat < 0x80) (hlower : c.toLower = c) (h : c ∈ cs) :
    c ∈ lower cs := by
  have hafter : ∀ before, c ∈ lowerAfter before cs := by
    induction cs with
    | nil => cases h
    | cons first rest ih =>
        intro before
        rw [lowerAfter, List.mem_append]
        rcases List.mem_cons.1 h with rfl | h
        · have hsigma : c ≠ 'Σ' := by
            rintro rfl
            exact absurd hc (by decide)
          rw [if_neg hsigma, lowerOf_ascii hc, hlower]
          exact .inl (List.mem_singleton_self c)
        · exact .inr (ih h _)
  exact hafter []

end LoaderGen.Text

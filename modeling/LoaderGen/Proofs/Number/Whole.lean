import LoaderGen.Number.Double
import Mathlib.Algebra.Ring.Nat

/-!
# Whole numbers among the doubles

Every whole number up to 2 to the 53rd is a double, and sums and products that stay within that bound
are not rounded.
-/

namespace LoaderGen.Double

variable {a b n units den : Nat}

/-- The double that is a whole number, where there is one. -/
def whole (n : Nat) : Double := .finite (n * unitsPerOne)

/-- Both bounds are powers of two; which ones makes no difference to what follows. -/
theorem exists_bits : ∃ bits, unitsPerOne = 2 ^ bits ∧ overflow = 2 ^ (1024 + bits) :=
  ⟨1074, Nat.pow_eq, Nat.pow_eq⟩

theorem unitsPerOne_pos : 0 < unitsPerOne := by
  obtain ⟨bits, hone, -⟩ := exists_bits
  rw [hone]
  exact Nat.two_pow_pos bits

theorem spacing_pos (units : Nat) : 0 < spacing units := by
  unfold spacing
  split
  · exact Nat.one_pos
  · exact Nat.pow_pos Nat.two_pos

theorem divToEven_mul (hden : 0 < den) : divToEven (n * den) den = n := by
  have hquotient : n * den / den = n := Nat.mul_div_cancel n hden
  have hremainder : n * den % den = 0 := Nat.mul_mod_left n den
  simp only [divToEven, hquotient, hremainder, Nat.mul_zero, if_pos hden]

/-- A number of units that the spacing around it divides is a double already. -/
theorem round_of_dvd (hden : 0 < den) (hstep : spacing units ∣ units) (hlt : units < overflow) :
    round (units * den) den = .finite units := by
  obtain ⟨steps, hsteps⟩ := hstep
  have hquotient : units * den / den = units := Nat.mul_div_cancel units hden
  have hnum : units * den = steps * (den * spacing units) := by
    calc units * den = spacing units * steps * den := by rw [← hsteps]
      _ = steps * (den * spacing units) := by ac_rfl
  have hnearest : divToEven (units * den) (den * spacing units) = steps := by
    rw [hnum]
    exact divToEven_mul (Nat.mul_pos hden (spacing_pos units))
  have hback : steps * spacing units = units := by
    rw [Nat.mul_comm]
    exact hsteps.symm
  simp only [round, hquotient, hnearest, hback, if_pos hlt]

theorem spacing_dvd (bits : Nat) (h : n ≤ 2 ^ 53) : spacing (n * 2 ^ bits) ∣ n * 2 ^ bits := by
  unfold spacing
  split
  · exact Nat.one_dvd _
  · next hlarge =>
    have hpos : n * 2 ^ bits ≠ 0 := by
      intro hzero
      exact hlarge (hzero ▸ Nat.two_pow_pos 53)
    rcases Nat.lt_or_eq_of_le h with hlt | rfl
    · -- At most 53 binary digits stand before those that the power adds.
      have hbound : n * 2 ^ bits < 2 ^ (53 + bits) := by
        rw [Nat.pow_add]
        exact Nat.mul_lt_mul_of_pos_right hlt (Nat.two_pow_pos bits)
      have hlog : (n * 2 ^ bits).log2 < 53 + bits := (Nat.log2_lt hpos).2 hbound
      exact Nat.dvd_mul_left_of_dvd (Nat.pow_dvd_pow 2 (by omega)) n
    · rw [← Nat.pow_add, Nat.log2_two_pow]
      exact Nat.pow_dvd_pow 2 (by omega)

theorem spacing_dvd_whole (h : n ≤ 2 ^ 53) : spacing (n * unitsPerOne) ∣ n * unitsPerOne := by
  obtain ⟨bits, hone, -⟩ := exists_bits
  rw [hone]
  exact spacing_dvd bits h

theorem whole_lt_overflow (h : n ≤ 2 ^ 53) : n * unitsPerOne < overflow := by
  obtain ⟨bits, hone, hoverflow⟩ := exists_bits
  rw [hone, hoverflow]
  calc n * 2 ^ bits ≤ 2 ^ 53 * 2 ^ bits := Nat.mul_le_mul_right (2 ^ bits) h
    _ = 2 ^ (53 + bits) := (Nat.pow_add 2 53 bits).symm
    _ < 2 ^ (1024 + bits) := Nat.pow_lt_pow_right (by omega) (by omega)

theorem round_whole (h : n ≤ 2 ^ 53) (hden : 0 < den) :
    round (n * unitsPerOne * den) den = whole n :=
  round_of_dvd hden (spacing_dvd_whole h) (whole_lt_overflow h)

theorem ofNat_eq_whole (h : n ≤ 2 ^ 53) : ofNat n = whole n := by
  have hround := round_whole h Nat.one_pos
  rwa [Nat.mul_one] at hround

theorem ofDecimal_eq_whole (h : n ≤ 2 ^ 53) : ofDecimal n 0 = whole n := ofNat_eq_whole h

theorem add_whole (h : a + b ≤ 2 ^ 53) : (whole a).add (whole b) = whole (a + b) := by
  have hround := round_whole h Nat.one_pos
  rwa [Nat.mul_one, Nat.add_mul] at hround

/-- Whole numbers are added from the left without rounding, as no sum on the way is above the last. -/
theorem foldl_add_whole {nums : List Nat} (h : n + nums.sum ≤ 2 ^ 53) :
    (nums.map whole).foldl add (whole n) = whole (n + nums.sum) := by
  induction nums generalizing n with
  | nil => rfl
  | cons first rest ih =>
      rw [List.sum_cons, ← Nat.add_assoc] at h ⊢
      rw [List.map_cons, List.foldl_cons, add_whole (by omega), ih h]

theorem mul_whole (h : a * b ≤ 2 ^ 53) : (whole a).mul (whole b) = whole (a * b) := by
  have hunits : a * unitsPerOne * (b * unitsPerOne) = a * b * unitsPerOne * unitsPerOne := by
    rw [Nat.mul_mul_mul_comm, Nat.mul_assoc (a * b)]
  show round (a * unitsPerOne * (b * unitsPerOne)) unitsPerOne = whole (a * b)
  rw [hunits]
  exact round_whole h unitsPerOne_pos

theorem nearestNat?_whole (n : Nat) : (whole n).nearestNat? = some n := by
  have hhalf : unitsPerOne / (2 * unitsPerOne) = 0 :=
    Nat.div_eq_of_lt (by have := unitsPerOne_pos; omega)
  have hpos : 0 < 2 * unitsPerOne := by have := unitsPerOne_pos; omega
  have hunits : 2 * (n * unitsPerOne) + unitsPerOne = unitsPerOne + n * (2 * unitsPerOne) := by
    rw [Nat.mul_left_comm, Nat.add_comm]
  show some ((2 * (n * unitsPerOne) + unitsPerOne) / (2 * unitsPerOne)) = some n
  rw [hunits, Nat.add_mul_div_right _ _ hpos, hhalf, Nat.zero_add]

end LoaderGen.Double

import LoaderGen.Proofs.Duration
import LoaderGen.Proofs.Number.Whole
import Mathlib.Algebra.Order.BigOperators.Group.List
import Mathlib.Algebra.Order.Ring.Nat

/-!
# Durations in whole numbers

Lengths are summed in doubles. Where all numbers of a text are whole, and the exact sum is not above
2 to the 53rd, each product and each sum on the way is a double itself, so nothing is rounded and the
length is the exact sum.
-/

namespace LoaderGen

namespace Duration

/-- A whole number and a unit as they are written: digits, one at least, zeros in front or not, and
a name of the unit right behind them. -/
structure WholePart where
  digits : List Char
  digits_ne : digits ≠ []
  isDigit : ∀ c ∈ digits, c.isDigit = true
  name : List Char
  unit : TimeUnit
  spells : SpellsUnit name unit

namespace WholePart

def text (part : WholePart) : List Char := part.digits ++ part.name

/-- The number that the digits stand for, in nanoseconds. -/
def nanos (part : WholePart) : Nat := Nat.ofDigitChars 10 part.digits 0 * part.unit.nanos

/-- What is read of the part. -/
def component (part : WholePart) : Component := ⟨digitsValue part.digits, 0, part.unit⟩

theorem spells_flatMap (parts : List WholePart) :
    Spells (parts.flatMap text) (parts.map component) := by
  induction parts with
  | nil => exact .nil
  | cons part rest ih => exact .cons (.whole part.digits_ne part.isDigit) part.spells ih

end WholePart

theorem TimeUnit.nanos_pos (unit : TimeUnit) : 0 < unit.nanos := by
  cases unit <;> decide

theorem TimeUnit.nanos_le (unit : TimeUnit) : unit.nanos ≤ 2 ^ 53 := by
  cases unit <;> decide

namespace WholePart

theorem nanos_component {part : WholePart} (h : part.nanos ≤ 2 ^ 53) :
    part.component.nanos = .whole part.nanos := by
  have hproduct : part.nanos = digitsValue part.digits * part.unit.nanos := rfl
  have hdigits : digitsValue part.digits ≤ 2 ^ 53 :=
    (Nat.le_mul_of_pos_right _ part.unit.nanos_pos).trans h
  show (Double.ofDecimal (digitsValue part.digits) 0).mul (.ofNat part.unit.nanos) = _
  rw [Double.ofDecimal_eq_whole hdigits, Double.ofNat_eq_whole part.unit.nanos_le, hproduct]
  exact Double.mul_whole h

theorem sum_component {parts : List WholePart} (h : (parts.map nanos).sum ≤ 2 ^ 53) :
    sum (parts.map component) = .whole (parts.map nanos).sum := by
  have hparts : (parts.map component).map Component.nanos = (parts.map nanos).map .whole := by
    rw [List.map_map, List.map_map]
    refine List.map_congr_left fun part hpart => ?_
    have hle : part.nanos ≤ (parts.map nanos).sum := List.le_sum_of_mem (List.mem_map_of_mem hpart)
    rw [Function.comp_apply, Function.comp_apply, nanos_component (hle.trans h)]
  have hstart : Double.finite 0 = .whole 0 := by rw [Double.whole, Nat.zero_mul]
  rw [sum, hparts, hstart, Double.foldl_add_whole (by omega), Nat.zero_add]

theorem parse_text {parts : List WholePart} (hne : parts ≠ [])
    (h : (parts.map nanos).sum ≤ 2 ^ 53) :
    parse (String.ofList (parts.flatMap text)) = .ok (atMost (parts.map nanos).sum) := by
  have hspells : Spells (String.ofList (parts.flatMap text)).toList (parts.map component) := by
    rw [String.toList_ofList]
    exact spells_flatMap parts
  rw [parse_eq_ok_of_spells (by simpa using hne) hspells, total, sum_component h,
    Double.nearestNat?_whole]

end WholePart

theorem nanos_atMost {n : Nat} (h : n ≤ 2 ^ 53) : (atMost n).nanos = n := by
  show min n (UInt64.size - 1) = n
  exact Nat.min_eq_left (h.trans (by decide))

/-- Whole numbers with their units, at least one, are read as their exact sum where that is not
above 2 to the 53rd, and written in another order they are the same duration. -/
theorem whole_durations_exact (parts : List WholePart) (hne : parts ≠ [])
    (hsum : (parts.map WholePart.nanos).sum ≤ 2 ^ 53) :
    ∃ duration, parse (String.ofList (parts.flatMap WholePart.text)) = .ok duration ∧
      duration.nanos = (parts.map WholePart.nanos).sum ∧
      ∀ others : List WholePart, others.Perm parts →
        parse (String.ofList (others.flatMap WholePart.text)) = .ok duration := by
  refine ⟨_, WholePart.parse_text hne hsum, nanos_atMost hsum, ?_⟩
  intro others hperm
  have hsums : (others.map WholePart.nanos).sum = (parts.map WholePart.nanos).sum :=
    (hperm.map WholePart.nanos).sum_nat
  have hothers : others ≠ [] := by
    intro hnil
    exact hne (List.nil_perm.1 (hnil ▸ hperm))
  rw [← hsums]
  exact WholePart.parse_text hothers (hsums ▸ hsum)

/-- Seven hundred milliseconds with zeros in front, ninety minutes, and seven hundred microseconds
with a micro sign. -/
def wholeParts : List WholePart := [
  ⟨['0', '0', '7', '0', '0'], by decide, Text.forall_mem_of_all (by decide), ['m', 's'], _,
    .millisecond⟩,
  ⟨['9', '0'], by decide, Text.forall_mem_of_all (by decide), ['m'], _, .minute⟩,
  ⟨['7', '0', '0'], by decide, Text.forall_mem_of_all (by decide), ['\u00b5', 's'], _, .microSign⟩]

theorem wholeParts_exact :
    wholeParts ≠ [] ∧ (wholeParts.map WholePart.nanos).sum ≤ 2 ^ 53 ∧
      ∃ duration, parse "00700ms90m700\u00b5s" = .ok duration ∧
        duration.nanos = 5400700700000 := by
  have hne : wholeParts ≠ [] := List.cons_ne_nil _ _
  have htext : String.ofList (wholeParts.flatMap WholePart.text) = "00700ms90m700\u00b5s" := by
    decide +kernel
  have hsum : (wholeParts.map WholePart.nanos).sum = 5400700700000 := by decide +kernel
  have hle : (wholeParts.map WholePart.nanos).sum ≤ 2 ^ 53 := hsum ▸ by decide
  obtain ⟨duration, hparse, hnanos, -⟩ := whole_durations_exact wholeParts hne hle
  rw [htext] at hparse
  exact ⟨hne, hle, duration, hparse, hnanos.trans hsum⟩

end Duration

end LoaderGen

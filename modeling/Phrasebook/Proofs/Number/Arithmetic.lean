import Mathlib
import Phrasebook.Number.Integer

/-!
# Arithmetic within the range

An operation on bounded integers gives the result of the same operation on the
integers whenever that result is in the range. Two numbers have a quotient and a
remainder unless the divisor is zero or the quotient is the one that is too
large, that of the least number by minus one. The parts that they divide a
number into are never larger than the number.
-/

namespace Phrasebook
namespace Integer

theorem ofInt?_of_lt {n : Int} (hlo : -2 ^ 63 ≤ n) (hhi : n < 2 ^ 63) :
    ofInt? n = some (Int64.ofInt n) := by
  have hrange : Int64.minValue.toInt ≤ n ∧ n ≤ Int64.maxValue.toInt := by
    rw [Int64.toInt_minValue, Int64.toInt_maxValue]
    omega
  rw [ofInt?, if_pos hrange]

theorem ofInt?_of_le {n : Int} (h : 2 ^ 63 ≤ n) : ofInt? n = none := by
  have hrange : ¬ (Int64.minValue.toInt ≤ n ∧ n ≤ Int64.maxValue.toInt) := by
    rw [Int64.toInt_minValue, Int64.toInt_maxValue]
    omega
  rw [ofInt?, if_neg hrange]

theorem exists_ofInt? {n : Int} (hlo : -2 ^ 63 ≤ n) (hhi : n < 2 ^ 63) :
    ∃ m, ofInt? n = some m ∧ m.toInt = n :=
  ⟨Int64.ofInt n, ofInt?_of_lt hlo hhi, toInt_of_ofInt? (ofInt?_of_lt hlo hhi)⟩

/-! ## Division -/

/-- There is a quotient and it is in range. -/
def HasQuotient (a b : Int64) : Prop :=
  b ≠ 0 ∧ ¬ (a = Int64.minValue ∧ b = -1)

instance (a b : Int64) : Decidable (HasQuotient a b) :=
  inferInstanceAs (Decidable (b ≠ 0 ∧ ¬ (a = Int64.minValue ∧ b = -1)))

variable {a b : Int64}

theorem HasQuotient.toInt_ne_zero (h : HasQuotient a b) : b.toInt ≠ 0 := by
  intro hzero
  exact h.1 (Int64.toInt_inj.mp (hzero.trans Int64.toInt_zero.symm))

theorem hasQuotient_of_one_le (a : Int64) (hb : 1 ≤ b.toInt) :
    HasQuotient a b := by
  refine ⟨?_, ?_⟩
  · rintro rfl
    exact absurd hb (by decide)
  · rintro ⟨-, rfl⟩
    exact absurd hb (by decide)

theorem HasQuotient.tdiv_ne (h : HasQuotient a b) :
    a.toInt.tdiv b.toInt ≠ 2 ^ 63 := by
  intro hq
  have habs : a.toInt.natAbs / b.toInt.natAbs = 2 ^ 63 := by
    have hnatAbs := Int.natAbs_tdiv a.toInt b.toInt
    rw [hq] at hnatAbs
    exact hnatAbs.symm
  have hle : 2 ^ 63 * b.toInt.natAbs ≤ a.toInt.natAbs :=
    habs ▸ Nat.div_mul_le_self a.toInt.natAbs b.toInt.natAbs
  have hne := h.toInt_ne_zero
  have hlo := a.le_toInt
  have hhi := a.toInt_lt
  have hb : b.toInt = 1 ∨ b.toInt = -1 := by omega
  rcases hb with hb | hb
  · rw [hb, Int.tdiv_one] at hq
    omega
  · have hmin : a.toInt = Int64.minValue.toInt := by
      rw [Int64.toInt_minValue]
      omega
    exact h.2 ⟨Int64.toInt_inj.mp hmin, Int64.toInt_inj.mp hb⟩

theorem HasQuotient.exists_div? (h : HasQuotient a b) :
    ∃ q, div? a b = some q ∧ q.toInt = a.toInt.tdiv b.toInt := by
  have habs := Int.natAbs_tdiv_le_natAbs a.toInt b.toInt
  have hne := h.tdiv_ne
  have hlo := a.le_toInt
  have hhi := a.toInt_lt
  rw [div?, if_neg h.1]
  exact exists_ofInt? (by omega) (by omega)

theorem HasQuotient.exists_rem? (h : HasQuotient a b) :
    ∃ r, rem? a b = some r ∧ r.toInt = a.toInt.tmod b.toInt := by
  obtain ⟨q, hq, -⟩ := h.exists_div?
  have hlt : (a.toInt.tmod b.toInt).natAbs < b.toInt.natAbs := by
    rw [Int.natAbs_tmod]
    exact Nat.mod_lt _ (Int.natAbs_pos.mpr h.toInt_ne_zero)
  have hlo := b.le_toInt
  have hhi := b.toInt_lt
  rw [rem?, if_neg h.1, hq, Option.bind_some]
  exact exists_ofInt? (by omega) (by omega)

/-- The quotient times the divisor is in range: it lies between zero and the
dividend, and so does the remainder, which is what is missing. -/
theorem exists_mul? {q : Int64} (hq : q.toInt = a.toInt.tdiv b.toInt) :
    ∃ p, mul? q b = some p ∧ p.toInt = a.toInt - a.toInt.tmod b.toInt := by
  have hparts := Int.tdiv_mul_add_tmod a.toInt b.toInt
  have hproduct :
      a.toInt.tdiv b.toInt * b.toInt = a.toInt - a.toInt.tmod b.toInt := by
        omega
  have hle : (a.toInt.tmod b.toInt).natAbs ≤ a.toInt.natAbs := by
    rw [Int.natAbs_tmod]
    exact Nat.mod_le _ _
  have hlo := a.le_toInt
  have hhi := a.toInt_lt
  rw [mul?, hq, hproduct]
  rcases Int.le_total 0 a.toInt with hsign | hsign
  · have hnonneg := Int.tmod_nonneg b.toInt hsign
    exact exists_ofInt? (by omega) (by omega)
  · have hnonpos := Int.tmod_nonneg b.toInt (Int.neg_nonneg_of_nonpos hsign)
    rw [Int.neg_tmod] at hnonpos
    exact exists_ofInt? (by omega) (by omega)

theorem div?_eq_none (h : ¬ HasQuotient a b) : div? a b = none := by
  by_cases hb : b = 0
  · rw [div?, if_pos hb]
  · obtain ⟨rfl, rfl⟩ : a = Int64.minValue ∧ b = -1 := by
      by_contra hne
      exact h ⟨hb, hne⟩
    decide

theorem rem?_eq_none (h : ¬ HasQuotient a b) : rem? a b = none := by
  rw [rem?, div?_eq_none h, Option.bind_none, ite_self]

/-- There is a remainder by every positive number, the truncated one. -/
theorem rem?_of_one_le (a : Int64) {m : Int64} (hm : 1 ≤ m.toInt) :
    ∃ r, rem? a m = some r ∧ r.toInt = a.toInt.tmod m.toInt :=
  (hasQuotient_of_one_le a hm).exists_rem?

end Integer
end Phrasebook

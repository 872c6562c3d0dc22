import Mathlib
import Phrasebook.Number.Integer
import Phrasebook.Proofs.Text.Run
import Phrasebook.Text.Blank

/-!
# Decimal text of integers

Reading a run of digits gives the number that the digits stand for, and the
decimal text of an integer reads back as that integer. So the text determines
the integer, the extremes of the range included.
-/

namespace Phrasebook
namespace Integer

/-- The characters are digits of a number that fits. -/
def IsNumeral (cs : List Char) : Prop :=
  (∀ c ∈ cs, c.isDigit = true) ∧ Nat.ofDigitChars 10 cs 0 < 2 ^ 63

theorem natFrom?_eq_ofDigitChars {cs : List Char}
    (h : ∀ c ∈ cs, c.isDigit = true) (acc : Nat) :
    natFrom? acc cs = some (Nat.ofDigitChars 10 cs acc) := by
  induction cs generalizing acc with
  | nil => simp [natFrom?]
  | cons c cs ih =>
      rw [natFrom?, if_pos (h c (by simp)), ih (fun d hd => h d (by simp [hd])),
        Nat.ofDigitChars_cons]

theorem nat?_eq_ofDigitChars {cs : List Char} (hne : cs ≠ [])
    (h : ∀ c ∈ cs, c.isDigit = true) :
    nat? cs = some (Nat.ofDigitChars 10 cs 0) := by
  rw [nat?, if_neg (by simpa using hne), natFrom?_eq_ofDigitChars h]

theorem isDigit_of_mem_natDigits {n : Nat} {c : Char} (h : c ∈ natDigits n) :
    c.isDigit = true :=
  Nat.isDigit_of_mem_toDigits (by decide) (by decide) h

theorem natDigits_ne_nil (n : Nat) : natDigits n ≠ [] :=
  Nat.toDigits_ne_nil

@[simp] theorem nat?_natDigits (n : Nat) : nat? (natDigits n) = some n := by
  rw [nat?_eq_ofDigitChars (natDigits_ne_nil n) fun _ =>
    isDigit_of_mem_natDigits]
  exact congrArg some Nat.ofDigitChars_ten_toDigits

theorem read?_of_isDigit {cs : List Char} (hne : cs ≠ [])
    (h : ∀ c ∈ cs, c.isDigit = true) :
    read? cs = ofInt? (Nat.ofDigitChars 10 cs 0) := by
  obtain ⟨c, rest, rfl⟩ := List.exists_cons_of_ne_nil hne
  have hdigit := h c (by simp)
  have hminus : c ≠ '-' := by rintro rfl; exact absurd hdigit (by decide)
  have hplus : c ≠ '+' := by rintro rfl; exact absurd hdigit (by decide)
  have hnat := nat?_eq_ofDigitChars hne h
  unfold read?
  split
  · simp_all
  · simp_all
  · rw [hnat, Option.bind_some]

@[simp] theorem read?_digits (n : Int64) : read? (digits n) = some n := by
  unfold digits
  split
  · rename_i hneg
    have hvalue : -(n.toInt.natAbs : Int) = n.toInt := by omega
    rw [read?, nat?_natDigits, Option.bind_some, hvalue, ofInt?_toInt]
  · rename_i hnonneg
    have hvalue : (n.toInt.natAbs : Int) = n.toInt := by omega
    rw [read?_of_isDigit (natDigits_ne_nil _) fun _ => isDigit_of_mem_natDigits,
      natDigits,
      Nat.ofDigitChars_ten_toDigits, hvalue, ofInt?_toInt]

theorem digits_injective {m n : Int64} (h : digits m = digits n) : m = n := by
  have hread := congrArg read? h
  simpa using hread

theorem digits_ne_nil (n : Int64) : digits n ≠ [] := by
  unfold digits
  split
  · simp
  · exact natDigits_ne_nil _

theorem eq_minus_or_isDigit_of_mem_digits {n : Int64} {c : Char}
    (h : c ∈ digits n) :
    c = '-' ∨ c.isDigit = true := by
  unfold digits at h
  split at h
  · rcases List.mem_cons.mp h with rfl | h
    · exact .inl rfl
    · exact .inr (isDigit_of_mem_natDigits h)
  · exact .inr (isDigit_of_mem_natDigits h)

theorem digits_of_nonneg {n : Int64} (hn : 0 ≤ n.toInt) :
    digits n = natDigits n.toInt.natAbs := by
  rw [digits, if_neg (by omega)]

theorem isBlank_eq_false_of_mem_digits {n : Int64} {c : Char}
    (h : c ∈ digits n) :
    Text.isBlank c = false := by
  rcases eq_minus_or_isDigit_of_mem_digits h with rfl | hdigit
  · decide
  · have hrange : 48 ≤ c.toNat ∧ c.toNat ≤ 57 :=
      Char.isDigit_iff_toNat.mp hdigit
    simp only [Text.isBlank, Bool.or_eq_false_iff, Bool.and_eq_false_iff,
      decide_eq_false_iff_not, beq_eq_false_iff_ne]
    omega

theorem stops_digits_append (n : Int64) (s : List Char) :
    Text.Stops Text.isBlank (digits n ++ s) := by
  obtain ⟨c, cs, hcs⟩ := List.exists_cons_of_ne_nil (digits_ne_nil n)
  rw [hcs, List.cons_append, Text.stops_cons]
  exact isBlank_eq_false_of_mem_digits (n := n) (by simp [hcs])

theorem stops_reverse_append_digits (n : Int64) (s : List Char) :
    Text.Stops Text.isBlank (s ++ digits n).reverse := by
  obtain ⟨c, cs, hcs⟩ := List.exists_cons_of_ne_nil
    (List.reverse_ne_nil_iff.mpr (digits_ne_nil n))
  rw [List.reverse_append, hcs, List.cons_append, Text.stops_cons]
  exact isBlank_eq_false_of_mem_digits (n := n)
    (List.mem_reverse.mp (by simp [hcs]))

end Integer
end Phrasebook

import Mathlib
import Phrasebook.Proofs.Number.Decimal
import Phrasebook.Proofs.Text.Splitting
import Phrasebook.Value.Compare

/-!
# An integer and its decimal text

A count reaches a rule as an integer or as the decimal text of one. Two values
are alike if they differ in this only, be it at some depth of a list. Alike
values read the same, stand for the same number, are true alike and compare
alike. The text of an integer is no literal of the calendar, so beside a moment
it is no more a moment than the integer is.
-/

namespace Phrasebook

/-! ## Decimal text is no moment -/

namespace Integer

theorem trimBoth_digits (n : Int64) : Text.trimBoth (digits n) = digits n := by
  have hhead := stops_digits_append n []
  have hlast := stops_reverse_append_digits n []
  rw [List.append_nil] at hhead
  rw [List.nil_append] at hlast
  exact Text.trimBoth_eq_self hhead hlast

theorem trimLeft_digits (n : Int64) : Text.trimLeft (digits n) = digits n := by
  have hhead := stops_digits_append n []
  rw [List.append_nil] at hhead
  exact Text.trimLeft_eq_self hhead

theorem minus_notMem_natDigits (n : Nat) : '-' ∉ natDigits n := by
  intro h
  exact absurd (isDigit_of_mem_natDigits h) (by decide)

theorem eq_natDigits_of_digits_eq_minus_cons {n : Int64} {s : List Char}
    (h : digits n = '-' :: s) : s = natDigits n.toInt.natAbs := by
  unfold digits at h
  split at h
  · exact (List.cons.inj h).2.symm
  · have hmem : '-' ∈ natDigits n.toInt.natAbs := by simp [h]
    exact absurd hmem (minus_notMem_natDigits _)

theorem toList_text (n : Int64) : (text n).toList = digits n :=
  String.toList_ofList

end Integer

namespace Moment

theorem after?_eq_none {mark : Char} {s : List Char} (h : mark ∉ s) :
    after? mark s = none := by
  cases s with
  | nil => rfl
  | cons c s =>
      have hne : c ≠ mark := by
        rintro rfl
        exact h List.mem_cons_self
      rw [after?, if_neg hne]

theorem mem_of_signed? {s rest : List Char} {k : Nat} {c : Char}
    (h : year?.signed? s = some (k, rest)) (hc : c ∈ rest) : c ∈ s := by
  obtain ⟨m, -, hm⟩ := Option.map_eq_some_iff.mp h
  obtain rfl := (Prod.mk.inj hm).2
  exact List.mem_of_mem_drop hc

theorem mem_of_number? {width : Nat} {s rest : List Char} {k : Nat} {c : Char}
    (h : number? width s = some (k, rest)) (hc : c ∈ rest) :
    c ∈ Text.trimLeft s := by
  obtain ⟨m, -, hm⟩ := Option.map_eq_some_iff.mp h
  obtain rfl := (Prod.mk.inj hm).2
  exact List.mem_of_mem_drop hc

/-- No hyphen is left behind a year that is read of an integer. -/
theorem minus_notMem_of_year? {n : Int64} {year : Int} {rest : List Char}
    (h : year? (Integer.digits n) = some (year, rest)) : '-' ∉ rest := by
  intro hmem
  have hdigits := Integer.minus_notMem_natDigits n.toInt.natAbs
  unfold year? at h
  rw [Integer.trimLeft_digits] at h
  split at h
  · rename_i tail heq
    obtain ⟨⟨k, after⟩, hsigned, hk⟩ := Option.map_eq_some_iff.mp h
    obtain rfl := (Prod.mk.inj hk).2
    have htail := Integer.eq_natDigits_of_digits_eq_minus_cons heq
    exact hdigits (htail ▸ mem_of_signed? hsigned hmem)
  · rename_i tail heq
    have hplus : '+' ∈ Integer.digits n := by simp [heq]
    exact absurd (Integer.eq_minus_or_isDigit_of_mem_digits hplus) (by decide)
  · rename_i hminus _
    obtain ⟨⟨k, after⟩, hnumber, hk⟩ := Option.map_eq_some_iff.mp h
    obtain rfl := (Prod.mk.inj hk).2
    have hread := mem_of_number? hnumber hmem
    rw [Integer.trimLeft_digits, Integer.digits] at hread
    split at hread
    · rename_i hneg
      exact hminus _ (if_pos hneg)
    · exact hdigits hread

theorem day?_digits (n : Int64) : day? (Integer.digits n) = none := by
  cases hyear : year? (Integer.digits n) with
  | none => simp [day?, hyear]
  | some found =>
      obtain ⟨year, rest⟩ := found
      simp [day?, hyear, after?_eq_none (minus_notMem_of_year? hyear)]

theorem ofDate?_digits (n : Int64) : ofDate? (Integer.digits n) = none := by
  rw [ofDate?, Integer.trimBoth_digits, day?_digits]
  rfl

theorem ofTime?_digits (n : Int64) : ofTime? (Integer.digits n) = none := by
  rw [ofTime?, Integer.trimBoth_digits, dayTime?, day?_digits]
  rfl

end Moment

/-! ## Alike values -/

namespace Value

/-- Induction over values: of a list, all items may be supposed to have the
property. -/
theorem induction {P : Value → Prop} (null : P .null) (bool : ∀ b, P (.bool b))
    (int : ∀ n, P (.int n)) (float : ∀ x, P (.float x)) (str : ∀ s, P (.str s))
    (date : ∀ m, P (.date m)) (list : ∀ vs, (∀ v ∈ vs, P v) → P (.list vs))
    (v : Value) : P v :=
  @Value.rec P (fun vs => ∀ v ∈ vs, P v) null bool int float str date list
    (by simp)
    (fun _ _ hv hvs => List.forall_mem_cons.mpr ⟨hv, hvs⟩) v

/-- Two values are equal, or are an integer and its decimal text, or are lists
that are alike item by item. -/
inductive Alike : Value → Value → Prop
  | refl (v : Value) : Alike v v
  | intText (n : Int64) : Alike (.int n) (.str (Integer.text n))
  | textInt (n : Int64) : Alike (.str (Integer.text n)) (.int n)
  | list {vs ws : List Value} (h : List.Forall₂ Alike vs ws) :
      Alike (.list vs) (.list ws)

namespace Alike

variable {v w x y : Value}

theorem truthy_eq (h : Alike v w) : v.truthy = w.truthy := by
  cases h <;> rfl

theorem text_eq (h : Alike v w) : v.text = w.text := by
  induction v using Value.induction generalizing w with
  | list vs ih =>
      cases h with
      | refl => rfl
      | list hitems =>
          rename_i ws
          have htexts : vs.map text = ws.map text := by
            induction hitems with
            | nil => rfl
            | cons hv _ ih' =>
                rw [List.map_cons, List.map_cons, ih _ (by simp) hv,
                  ih' fun v hv => ih v (List.mem_cons_of_mem _ hv)]
          rw [text, text, texts_eq_map, texts_eq_map, htexts]
  | int n => cases h <;> rfl
  | str s => cases h <;> rfl
  | _ => cases h; rfl

theorem number?_eq (h : Alike v w) : v.number? = w.number? := by
  have hread : ∀ n, number? (.str (Integer.text n)) = some (.int n) := by
    intro n
    simp [number?, Integer.toList_text, Integer.trimBoth_digits]
  cases h with
  | refl => rfl
  | intText n => exact (hread n).symm
  | textInt n => exact hread n
  | list => rfl

theorem float?_eq (h : Alike v w) : v.float? = w.float? := by
  rw [float?, float?, h.number?_eq]

theorem int?_eq (h : Alike v w) : v.int? = w.int? := by
  have hread : ∀ n, int? (.str (Integer.text n)) = some n := by
    intro n
    simp [int?, Integer.toList_text, Integer.trimBoth_digits]
  cases h with
  | refl => rfl
  | intText n => exact (hread n).symm
  | textInt n => exact hread n
  | list => rfl

theorem list?_isNone_eq (h : Alike v w) : v.list?.isNone = w.list?.isNone := by
  cases h <;> rfl

theorem momentBeside?_text (n : Int64) (v : Value) :
    momentBeside? (.str (Integer.text n)) v = none := by
  cases v with
  | date m =>
      simp [momentBeside?, Integer.toList_text, Moment.ofTime?_digits,
        Moment.ofDate?_digits]
  | _ => rfl

theorem momentBeside?_eq (hv : Alike v w) (hx : Alike x y) :
    v.momentBeside? x = w.momentBeside? y := by
  have hright : v.momentBeside? x = v.momentBeside? y := by
    cases hx with
    | refl => rfl
    | _ => cases v <;> rfl
  rw [hright]
  cases hv with
  | refl => rfl
  | intText n => exact (momentBeside?_text n y).symm
  | textInt n => exact momentBeside?_text n y
  | list => rfl

theorem order_eq (hv : Alike v w) (hx : Alike x y) : v.order x = w.order y := by
  rw [order, order, momentBeside?_eq hv hx, momentBeside?_eq hx hv,
    hv.number?_eq, hx.number?_eq, hv.text_eq, hx.text_eq]

theorem compare_eq (c : Comparison) (hv : Alike v w) (hx : Alike x y) :
    compare c v x = compare c w y := by
  rw [compare, compare, order_eq hv hx]

end Alike
end Value
end Phrasebook

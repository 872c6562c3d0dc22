import Mathlib
import Phrasebook.Proofs.Eval.Yields
import Phrasebook.Proofs.Value.Alike

/-!
# Comparisons fit together

Two values are compared as moments, as numbers, or by their texts, and which of
these it is depends on both of them. Whatever they are, the comparisons agree
with each other: a comparison from the right to the left is its mirror image,
and one that does not hold makes its opposite hold, unless the values are
numbers that have no order. Values that are the same compare equal, provided
that there is no double among them: a zero and a minus zero are the same but
differ in text.
-/

namespace Phrasebook

/-! ## The comparisons -/

namespace Comparison

def mirrored : Comparison → Comparison
  | .equal => .equal
  | .notEqual => .notEqual
  | .less => .greater
  | .lessEqual => .greaterEqual
  | .greater => .less
  | .greaterEqual => .lessEqual

/-- The comparison that holds of an order just where this one does not. -/
def opposite : Comparison → Comparison
  | .equal => .notEqual
  | .notEqual => .equal
  | .less => .greaterEqual
  | .lessEqual => .greater
  | .greater => .lessEqual
  | .greaterEqual => .less

theorem holdsOf_swap (c : Comparison) (o : Ordering) :
    c.mirrored.holdsOf o.swap = c.holdsOf o := by
  cases c <;> cases o <;> rfl

theorem holdsOf?_swap (c : Comparison) (o : Option Ordering) :
    c.mirrored.holdsOf? (o.map Ordering.swap) = c.holdsOf? o := by
  cases o with
  | none => cases c <;> rfl
  | some o => exact c.holdsOf_swap o

theorem holdsOf_opposite (c : Comparison) (o : Ordering) :
    c.opposite.holdsOf o = !c.holdsOf o := by
  cases c <;> cases o <;> rfl

end Comparison

/-! ## Doubles

Doubles are compared as IEEE 754 has it. -/

section Doubles

open Float.Model (UnpackedFloat)

private theorem unpackedCompare_swap (a b : UnpackedFloat) :
    b.compare a = (a.compare b).map Ordering.swap := by
  cases a with
  | notANumber => cases b <;> rfl
  | infinity s =>
      cases b with
      | infinity t => cases s <;> cases t <;> rfl
      | _ => cases s <;> rfl
  | zero s =>
      cases b with
      | infinity t => cases t <;> rfl
      | finite t n f hn => cases t <;> rfl
      | _ => rfl
  | finite s m e hm =>
      cases b with
      | notANumber => cases s <;> rfl
      | infinity t => cases s <;> cases t <;> rfl
      | zero t => cases s <;> rfl
      | finite t n f hn =>
          have hswap : (compare f e).then (compare n m) =
              ((compare e f).then (compare m n)).swap := by
            rw [Ordering.swap_then, ← Std.OrientedOrd.eq_swap,
              ← Std.OrientedOrd.eq_swap]
          cases s <;> cases t <;> simp [UnpackedFloat.compare, hswap]

namespace Number

theorem compareFloat?_eq (a b : Float) :
    compareFloat? a b = a.toModel.unpack.compare b.toModel.unpack := by
  have hlt : ∀ x y : Float,
      x < y ↔ x.toModel.unpack.compare y.toModel.unpack = some .lt := by
    intro x y
    have hdef : x < y ↔ Float.lt x y = true := Iff.rfl
    rw [hdef, Float.lt, decide_eq_true_iff]
    exact beq_iff_eq
  have heq : (a == b) = true ↔
      a.toModel.unpack.compare b.toModel.unpack = some .eq :=
    beq_iff_eq (a := a.toModel.unpack.compare b.toModel.unpack) (b := some .eq)
  unfold compareFloat?
  simp only [hlt, heq, unpackedCompare_swap a.toModel.unpack b.toModel.unpack]
  cases a.toModel.unpack.compare b.toModel.unpack with
  | none => rfl
  | some o => cases o <;> rfl

theorem compareFloat?_swap (a b : Float) :
    compareFloat? b a = (compareFloat? a b).map Ordering.swap := by
  rw [compareFloat?_eq, compareFloat?_eq, unpackedCompare_swap]

theorem compareFloat?_self {x : Float} (h : x.isFinite = true) :
    compareFloat? x x = some .eq := by
  have hfinite : x.toModel.unpack.isFinite = true := h
  rw [compareFloat?_eq]
  cases hx : x.toModel.unpack with
  | notANumber => simp [hx, UnpackedFloat.isFinite] at hfinite
  | infinity s => simp [hx, UnpackedFloat.isFinite] at hfinite
  | zero s => rfl
  | finite s m e hm => cases s <;> simp [UnpackedFloat.compare]

theorem compare?_swap (a b : Number) :
    b.compare? a = (a.compare? b).map Ordering.swap := by
  cases a with
  | int m =>
      cases b with
      | int n =>
          simp only [compare?, Option.map_some, ← Std.OrientedOrd.eq_swap]
      | float y => exact compareFloat?_swap _ _
  | float x => cases b <;> exact compareFloat?_swap _ _

end Number

end Doubles

theorem Moment.compare_swap (a b : Moment) :
    b.compare a = (a.compare b).swap := by
  simp only [compare, Ordering.swap_then, ← Std.OrientedOrd.eq_swap]

theorem Moment.compare_self (a : Moment) : a.compare a = .eq := by
  simp [compare]

/-! ## Values -/

namespace Value

variable {l r v w : Value}

/-- The same ground seen from the other side. -/
def Order.mirrored : Order → Order
  | .ranked o => .ranked (o.map Ordering.swap)
  | .texts a b => .texts b a

theorem order_mirrored (l r : Value) : r.order l = (l.order r).mirrored := by
  unfold order
  cases l.momentBeside? r <;> cases r.momentBeside? l
  case some.some a b =>
    exact congrArg (fun o => Order.ranked (some o)) (a.compare_swap b)
  all_goals
    cases l.number? <;> cases r.number?
    case some.some a b => exact congrArg Order.ranked (a.compare?_swap b)
    all_goals rfl

/-- A comparison of the right with the left is the mirrored comparison of the
left with the right. -/
theorem compare_mirrored (c : Comparison) (l r : Value) :
    compare c.mirrored r l = compare c l r := by
  unfold compare
  rw [order_mirrored]
  cases l.order r with
  | ranked o => exact c.holdsOf?_swap o
  | texts a b =>
      have hlength : ∀ c : Comparison,
          c.mirrored.holdsOf (Ord.compare b.length a.length) =
            c.holdsOf (Ord.compare a.length b.length) := by
        intro c
        rw [Std.OrientedOrd.eq_swap, c.holdsOf_swap]
      cases c with
      | equal => exact BEq.comm
      | notEqual => exact congrArg not BEq.comm
      | _ => exact hlength _

def Unordered (l r : Value) : Prop :=
  ∃ a b, l.number? = some a ∧ r.number? = some b ∧ a.compare? b = none

theorem unordered_of_order (h : l.order r = .ranked none) : Unordered l r := by
  unfold order at h
  split at h
  · simp at h
  · split at h
    · rename_i a b hl hr
      exact ⟨a, b, hl, hr, by simpa using h⟩
    · simp at h

theorem compare_opposite (c : Comparison)
    (h : ¬ Unordered l r ∨ c = .equal ∨ c = .notEqual) :
    compare c.opposite l r = !compare c l r := by
  unfold compare
  cases horder : l.order r with
  | ranked o =>
      cases o with
      | some o => exact c.holdsOf_opposite o
      | none =>
          rcases h with h | rfl | rfl
          · exact absurd (unordered_of_order horder) h
          · rfl
          · rfl
  | texts a b =>
      cases c with
      | equal => rfl
      | notEqual => exact (Bool.not_not _).symm
      | _ => exact Comparison.holdsOf_opposite _ _

/-! ## Same values -/

mutual

def hasFloat : Value → Bool
  | .float _ => true
  | .list items => hasFloats items
  | _ => false

def hasFloats : List Value → Bool
  | [] => false
  | v :: vs => v.hasFloat || hasFloats vs

end

theorem eq_of_same (h : v.same w = true) (hv : v.hasFloat = false) : v = w := by
  induction v using Value.induction generalizing w with
  | list vs ih =>
      cases w with
      | list ws =>
          have hitems : sameAll vs ws = true := by simpa only [same] using h
          have hfloats : hasFloats vs = false := by
            simpa only [hasFloat] using hv
          congr
          clear h hv
          induction vs generalizing ws with
          | nil =>
              cases ws with
              | nil => rfl
              | cons w ws => simp [sameAll] at hitems
          | cons v vs ih' =>
              cases ws with
              | nil => simp [sameAll] at hitems
              | cons w ws =>
                  simp only [sameAll, Bool.and_eq_true] at hitems
                  simp only [hasFloats, Bool.or_eq_false_iff] at hfloats
                  obtain ⟨hhead, htail⟩ := List.forall_mem_cons.mp ih
                  rw [hhead hitems.1 hfloats.1, ih' htail ws hitems.2 hfloats.2]
      | _ => simp [same] at h
  | float x => simp [hasFloat] at hv
  | _ => cases w <;> simp_all [same]

theorem number?_compare_self (hv : v.hasFloat = false) {n : Number}
    (h : v.number? = some n) :
    n.compare? n = some .eq := by
  cases n with
  | int n => simp [Number.compare?]
  | float x =>
      apply Number.compareFloat?_self
      cases v with
      | str s =>
          simp only [number?, finite?] at h
          split at h
          · simp at h
          · obtain ⟨y, hy, hyx⟩ := Option.map_eq_some_iff.mp h
            obtain rfl : y = x := by simpa using hyx
            obtain ⟨z, -, hz⟩ := Option.bind_eq_some_iff.mp hy
            split at hz
            · obtain rfl : z = y := by simpa using hz
              assumption
            · simp at hz
      | float y => simp [hasFloat] at hv
      | _ => simp [number?] at h

theorem compare_self (hv : v.hasFloat = false) : compare .equal v v = true := by
  unfold compare order
  cases v.momentBeside? v with
  | some a =>
      simp [Moment.compare_self, Comparison.holdsOf?, Comparison.holdsOf]
  | none =>
      cases hn : v.number? with
      | some n =>
          simp [number?_compare_self hv hn, Comparison.holdsOf?,
            Comparison.holdsOf]
      | none => simp

end Value

/-! ## The operations -/

namespace Evaluator

/-- The answer of an operation of the standard evaluator on two values, if it is
yes or no. -/
def answer? (clock : Moment) (name : String) (l r : Value) : Option Bool :=
  match (standard clock).apply name [l, r] with
  | .ok (.bool b) => some b
  | _ => none

theorem answer?_compare {clock : Moment} {name : String} {c : Comparison}
    {l r : Value}
    (h : Table.find? name Builtin.named = some (.primitive (.compare c))) :
    answer? clock name l r = some (Value.compare c l r) := by
  simp only [answer?, apply, operation?_named h, Primitive.apply]

/-- The comparisons of any two values are coherent. They always have an answer;
the operations `=` and `!=` are opposite and do not depend on the sides; an
ordering is the mirror image of the other one; apart from numbers without an
order, each ordering is the opposite of another; and values that are the same
are equal, unless there is a double among them. -/
theorem comparisons_coherent (clock : Moment) (l r : Value) :
    (∀ name ∈ ["=", "!=", "<", "<=", ">", ">="],
      (answer? clock name l r).isSome) ∧
      answer? clock "!=" l r = (answer? clock "=" l r).map not ∧
      answer? clock "=" l r = answer? clock "=" r l ∧
      answer? clock "!=" l r = answer? clock "!=" r l ∧
      answer? clock "<" l r = answer? clock ">" r l ∧
      answer? clock "<=" l r = answer? clock ">=" r l ∧
      (¬ Value.Unordered l r →
        answer? clock "<=" l r = (answer? clock ">" l r).map not ∧
          answer? clock ">=" l r = (answer? clock "<" l r).map not) ∧
      (l.hasFloat = false → r.hasFloat = false →
        answer? clock "eq" l r = some true →
        answer? clock "=" l r = some true) := by
  have hequal : ∀ l r, answer? clock "=" l r =
      some (Value.compare .equal l r) :=
    fun _ _ => answer?_compare rfl
  have hnotEqual :
      ∀ l r, answer? clock "!=" l r = some (Value.compare .notEqual l r) :=
    fun _ _ => answer?_compare rfl
  have hless : ∀ l r, answer? clock "<" l r = some (Value.compare .less l r) :=
    fun _ _ => answer?_compare rfl
  have hlessEqual :
      ∀ l r, answer? clock "<=" l r = some (Value.compare .lessEqual l r) :=
    fun _ _ => answer?_compare rfl
  have hgreater :
      ∀ l r, answer? clock ">" l r = some (Value.compare .greater l r) :=
    fun _ _ => answer?_compare rfl
  have hgreaterEqual :
      ∀ l r, answer? clock ">=" l r = some (Value.compare .greaterEqual l r) :=
    fun _ _ => answer?_compare rfl
  refine ⟨?_, ?_, ?_, ?_, ?_, ?_, ?_, ?_⟩
  · simp [hequal, hnotEqual, hless, hlessEqual, hgreater, hgreaterEqual]
  · rw [hnotEqual, hequal, Option.map_some,
      ← Value.compare_opposite .equal (.inr (.inl rfl))]
    rfl
  · rw [hequal, hequal, ← Value.compare_mirrored .equal]
    rfl
  · rw [hnotEqual, hnotEqual, ← Value.compare_mirrored .notEqual]
    rfl
  · rw [hless, hgreater, ← Value.compare_mirrored .less]
    rfl
  · rw [hlessEqual, hgreaterEqual, ← Value.compare_mirrored .lessEqual]
    rfl
  · intro hordered
    rw [hlessEqual, hgreater, hgreaterEqual, hless, Option.map_some,
      Option.map_some, ← Value.compare_opposite .greater (.inl hordered),
      ← Value.compare_opposite .less (.inl hordered)]
    exact ⟨rfl, rfl⟩
  · intro hl _ hsame
    have heq : answer? clock "eq" l r = some (l.same r) := by
      have hname : Table.find? "eq" Builtin.named = some (.primitive .eq) := rfl
      simp only [answer?, apply, operation?_named hname, Primitive.apply]
    have hsame : l.same r = true := by simpa [heq] using hsame
    rw [hequal, ← Value.eq_of_same hsame hl, Value.compare_self hl]

/-- The text ` 1.50 ` is no double, and read as one it is equal to itself. -/
theorem comparisons_coherent_spelled :
    let v := Value.str " 1.50 "
    ¬ Value.Unordered v v ∧ v.hasFloat = false ∧
      answer? default "eq" v v = some true ∧
      answer? default "=" v v = some true ∧
      answer? default "<=" v v = (answer? default ">" v v).map not ∧
      answer? default ">=" v v = some true := by
  intro v
  have hordered : ¬ Value.Unordered v v := by
    rintro ⟨a, b, ha, hb, hnone⟩
    obtain rfl : a = b := Option.some.inj (ha.symm.trans hb)
    simp [Value.number?_compare_self rfl ha] at hnone
  have hsame : answer? default "eq" v v = some true := by decide +kernel
  obtain ⟨-, -, -, -, -, -, hopposite, hequal⟩ :=
    comparisons_coherent default v v
  exact ⟨hordered, rfl, hsame, hequal rfl rfl hsame,
    (hopposite hordered).1, by decide +kernel⟩

end Evaluator
end Phrasebook

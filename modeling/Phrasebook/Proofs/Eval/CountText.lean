import Mathlib
import Phrasebook.Proofs.Eval.Correspondence
import Phrasebook.Proofs.Eval.Operations
import Phrasebook.Proofs.Value.Alike

/-!
# Counts passed as text

A rule cannot tell an integer from its decimal text, unless by addition, which
joins two texts, or by `eq`, which compares kinds. All other primitives look at
their arguments through views that are the same for alike values: as text, as a
number, as an integer, as a truth value. So alike bindings lead an evaluation
the same way to alike values.
-/

namespace Phrasebook

/-- Two results are alike values, or failures for whatever reason. -/
abbrev AlikeOutcomes : Except EvalError Value → Except EvalError Value → Prop :=
  Outcomes Value.Alike fun _ _ => True

theorem alikeOutcomes_refl (r : Except EvalError Value) :
    AlikeOutcomes r r := by
  cases r with
  | ok v => exact .ok (.refl v)
  | error e => exact .error trivial

theorem alikeOutcomes_of_eq {r s : Except EvalError Value} (h : r = s) :
    AlikeOutcomes r s :=
  h ▸ alikeOutcomes_refl r

open Value (Alike)

/-! ## Arithmetic -/

namespace Arithmetic

/-- All arithmetic but addition goes by the numbers alone. -/
theorem alikeOutcomes_apply {op : Arithmetic} (hop : op ≠ .add) (name : String)
    {v w x y : Value} (hv : Alike v w) (hx : Alike x y) :
    AlikeOutcomes (op.apply name v x) (op.apply name w y) := by
  have hjoins : (op == .add) = false := beq_eq_false_iff_ne.mpr hop
  simp only [apply, hjoins, Bool.false_and, Bool.false_eq_true, if_false,
    hv.number?_eq, hx.number?_eq]
  split
  · exact alikeOutcomes_refl _
  · exact .error trivial

end Arithmetic

/-! ## Primitives -/

namespace Primitive

variable {clock : Moment} {name : String} {p : Primitive}
    {args vs ws : List Value}

theorem apply_of_length_ne (h : args.length ≠ p.arity) :
    p.apply clock name args =
      .error (.argumentCount name p.arity args.length) := by
  unfold apply
  split <;> first | rfl | exact absurd rfl h

/-- Whatever is alike fails alike with a wrong number of arguments. -/
theorem alikeOutcomes_apply_of_arity (hargs : List.Forall₂ Alike vs ws)
    (h : vs.length = p.arity →
      AlikeOutcomes (p.apply clock name vs) (p.apply clock name ws)) :
    AlikeOutcomes (p.apply clock name vs) (p.apply clock name ws) := by
  by_cases hlength : vs.length = p.arity
  · exact h hlength
  · rw [apply_of_length_ne hlength,
      apply_of_length_ne (hargs.length_eq ▸ hlength)]
    exact .error trivial

theorem alikeOutcomes_apply_unary (hp : p.arity = 1)
    (h : ∀ v w, Alike v w → AlikeOutcomes (p.apply clock name [v])
      (p.apply clock name [w]))
    (hargs : List.Forall₂ Alike vs ws) :
    AlikeOutcomes (p.apply clock name vs) (p.apply clock name ws) := by
  refine alikeOutcomes_apply_of_arity hargs fun hlength => ?_
  obtain ⟨v, rfl⟩ := List.length_eq_one_iff.mp (hlength.trans hp)
  obtain ⟨w, _, hvw, hnil, rfl⟩ := List.forall₂_cons_left_iff.mp hargs
  obtain rfl := List.forall₂_nil_left_iff.mp hnil
  exact h v w hvw

theorem alikeOutcomes_apply_binary (hp : p.arity = 2)
    (h : ∀ v w x y, Alike v w → Alike x y →
      AlikeOutcomes (p.apply clock name [v, x]) (p.apply clock name [w, y]))
    (hargs : List.Forall₂ Alike vs ws) :
    AlikeOutcomes (p.apply clock name vs) (p.apply clock name ws) := by
  refine alikeOutcomes_apply_of_arity hargs fun hlength => ?_
  obtain ⟨v, x, rfl⟩ := List.length_eq_two.mp (hlength.trans hp)
  obtain ⟨w, _, hvw, hrest, rfl⟩ := List.forall₂_cons_left_iff.mp hargs
  obtain ⟨y, _, hxy, hnil, rfl⟩ := List.forall₂_cons_left_iff.mp hrest
  obtain rfl := List.forall₂_nil_left_iff.mp hnil
  exact h v w x y hvw hxy

theorem integer?_eq {v w : Value} (h : Alike v w) :
    integer? v = integer? w := by
  have hint := h.int?_eq
  cases h with
  | refl => rfl
  | list => rfl
  | intText n => exact hint
  | textInt n => exact hint

theorem alikeOutcomes_cons {v w x y : Value} (hv : Alike v w) (hx : Alike x y) :
    AlikeOutcomes (cons.apply clock name [v, x])
      (cons.apply clock name [w, y]) := by
  cases hx with
  | refl x =>
      cases x with
      | list items =>
          exact .ok
            (.list (.cons hv (List.forall₂_same.mpr fun x _ => .refl x)))
      | null => exact .ok (.list (.cons hv .nil))
      | _ => exact .error trivial
  | intText n => exact .error trivial
  | textInt n => exact .error trivial
  | list hitems => exact .ok (.list (.cons hv hitems))

theorem alikeOutcomes_remainder {v w x y : Value} (hv : Alike v w)
    (hx : Alike x y) :
    AlikeOutcomes (remainder name v x) (remainder name w y) := by
  simp only [remainder, integer?_eq hv, integer?_eq hx]
  split
  · exact alikeOutcomes_refl _
  · exact .error trivial
  · exact .error trivial

theorem alikeOutcomes_within {v w x y : Value} (hv : Alike v w)
    (hx : Alike x y) :
    AlikeOutcomes (within.apply clock name [v, x])
      (within.apply clock name [w, y]) := by
  simp only [apply, isWithin?, hv.text_eq, hx.float?_eq]
  split
  · exact alikeOutcomes_refl _
  · exact .error trivial

/-- No primitive but addition and `eq` tells alike arguments apart. -/
theorem alikeOutcomes_apply (heq : p ≠ .eq) (hadd : p ≠ .arithmetic .add)
    (hargs : List.Forall₂ Alike vs ws) :
    AlikeOutcomes (p.apply clock name vs) (p.apply clock name ws) := by
  cases p with
  | eq => exact absurd rfl heq
  | cons =>
      exact alikeOutcomes_apply_binary rfl
        (fun _ _ _ _ => alikeOutcomes_cons) hargs
  | atom =>
      refine alikeOutcomes_apply_unary rfl
        (fun v w hv => alikeOutcomes_of_eq ?_) hargs
      simp only [apply, hv.list?_isNone_eq]
  | not =>
      refine alikeOutcomes_apply_unary rfl
        (fun v w hv => alikeOutcomes_of_eq ?_) hargs
      simp only [apply, hv.truthy_eq]
  | arithmetic op =>
      have hop : op ≠ .add := fun h => hadd (h ▸ rfl)
      exact alikeOutcomes_apply_binary rfl
        (fun _ _ _ _ => Arithmetic.alikeOutcomes_apply hop name) hargs
  | mod =>
      exact alikeOutcomes_apply_binary rfl
        (fun _ _ _ _ => alikeOutcomes_remainder) hargs
  | within =>
      exact alikeOutcomes_apply_binary rfl
        (fun _ _ _ _ => alikeOutcomes_within) hargs
  | compare op =>
      refine alikeOutcomes_apply_binary rfl
        (fun _ _ _ _ hv hx => alikeOutcomes_of_eq ?_) hargs
      simp only [apply, Alike.compare_eq op hv hx]
  | replace =>
      refine alikeOutcomes_apply_of_arity hargs fun hlength =>
        alikeOutcomes_of_eq ?_
      obtain ⟨u, v, x, rfl⟩ := List.length_eq_three.mp hlength
      obtain ⟨u', _, hu, hrest, rfl⟩ := List.forall₂_cons_left_iff.mp hargs
      obtain ⟨w, _, hv, hrest', rfl⟩ := List.forall₂_cons_left_iff.mp hrest
      obtain ⟨y, _, hx, hnil, rfl⟩ := List.forall₂_cons_left_iff.mp hrest'
      obtain rfl := List.forall₂_nil_left_iff.mp hnil
      simp only [apply, hu.text_eq, hv.text_eq, hx.text_eq]
  | member | «matches» | append | prepend =>
      refine alikeOutcomes_apply_binary rfl
        (fun _ _ _ _ hv hx => alikeOutcomes_of_eq ?_) hargs
      simp only [apply, hv.text_eq, hx.text_eq]
  | date | time | upcase | downcase | capitalize =>
      refine alikeOutcomes_apply_unary rfl
        (fun _ _ hv => alikeOutcomes_of_eq ?_) hargs
      simp only [apply, hv.text_eq]
  | today | now =>
      cases hargs with
      | nil => exact alikeOutcomes_refl _
      | cons => exact .error trivial

theorem name_of_eq
    (h : Table.find? name Builtin.named = some (.primitive .eq)) :
    name = "eq" := by
  have hmem := Table.mem_of_find? h
  simpa [Builtin.named] using hmem

theorem name_of_add
    (h : Table.find? name Builtin.named =
      some (.primitive (.arithmetic .add))) :
    name = "+" := by
  have hmem := Table.mem_of_find? h
  simpa [Builtin.named] using hmem

end Primitive

/-! ## Evaluation -/

/-- Two bindings bind the same names, to alike values. -/
def AlikeBindings (b c : Bindings) : Prop :=
  ∀ name, Option.Rel Alike (b.get? name) (c.get? name)

namespace AlikeBindings

variable {b c : Bindings}

theorem lookup (h : AlikeBindings b c) (name : String) :
    Alike ((b.get? name).getD (.str name))
      ((c.get? name).getD (.str name)) := by
  have hname := h name
  generalize b.get? name = x at hname ⊢
  generalize c.get? name = y at hname ⊢
  cases hname with
  | some hv => exact hv
  | none => exact .refl _

theorem set (h : AlikeBindings b c) (name : String) {v w : Value}
    (hv : Alike v w) :
    AlikeBindings (b.set name v) (c.set name w) := by
  intro key
  rw [Table.get?_set, Table.get?_set]
  by_cases heq : name = key
  · rw [if_pos heq, if_pos heq]
    exact .some hv
  · rw [if_neg heq, if_neg heq]
    exact h key

end AlikeBindings

theorem Value.Alike.listView {v w : Value} (h : Alike v w) :
    Value.ListView Alike v w := by
  cases h with
  | refl => exact Value.listView_refl .refl _
  | intText n => exact .other rfl rfl
  | textInt n => exact .other rfl rfl
  | list hitems => exact .list hitems

/-- The correspondence of evaluations with alike variables. -/
def Correspondence.alike (ev : Evaluator) (hev : ev.ExtendedBy fun _ => False) :
    Correspondence ev where
  value := Alike
  error := fun _ _ => True
  event := fun _ _ => True
  bindings := fun _ => AlikeBindings
  reads := fun _ => True
  calls := fun name => name ≠ "+" ∧ name ≠ "eq"
  value_refl := .refl
  truthy_eq := Alike.truthy_eq
  listView := Alike.listView
  list := .list
  compare_eq := Alike.compare_eq .equal
  error_refl := fun _ => trivial
  mismatch := fun _ _ _ _ => trivial
  degraded := fun _ _ _ _ => trivial
  lookup := fun _ hb => hb.lookup _
  assign := fun name hb hv => hb.set name hv
  primitive := by
    intro name p vs ws hname hop hargs
    have hnamed := hev.named hop
    have heq : p ≠ .eq := by
      rintro rfl
      exact hname.2 (Primitive.name_of_eq hnamed)
    have hadd : p ≠ .arithmetic .add := by
      rintro rfl
      exact hname.1 (Primitive.name_of_add hnamed)
    exact Primitive.alikeOutcomes_apply heq hadd hargs
  applicative := fun hop _ => (hev.caller hop).elim
  noSpecial := hev.noSpecial

/-- With built-ins only, and without addition and `eq`, alike variables lead to
alike values, which are true alike and read the same, and the variables are
alike afterwards. -/
theorem Evaluator.run_alike {ev : Evaluator}
    (hev : ev.ExtendedBy fun _ => False) {e : Expr}
    (he : "+" ∉ e.operators ∧ "eq" ∉ e.operators) {b c : Bindings}
    (h : AlikeBindings b c) :
    Alike (ev.run e b).value.1 (ev.run e c).value.1 ∧
      (ev.run e b).value.1.truthy = (ev.run e c).value.1.truthy ∧
      (ev.run e b).value.1.text = (ev.run e c).value.1.text ∧
      AlikeBindings (ev.run e b).value.2 (ev.run e c).value.2 := by
  have hcalls : ∀ name ∈ e.operators, name ≠ "+" ∧ name ≠ "eq" :=
    fun name hname =>
      ⟨ne_of_mem_of_not_mem hname he.1, ne_of_mem_of_not_mem hname he.2⟩
  have hrelates :=
    (Correspondence.alike ev hev).relates_evaluate e (fun _ _ => trivial) hcalls
  obtain ⟨hvalue, -, -, hafter⟩ := hrelates [] b c h
  exact ⟨hvalue, hvalue.truthy_eq, hvalue.text_eq, hafter⟩

/-- The rule `(if (= 1 (mod @n 10)) (let "forms" (cons @n (quote (st)))) null)`
reads `21, st` whether the count is the integer 21 or the text of it, and the
list that it assigns is alike. -/
theorem Evaluator.run_alike_ordinal :
    let ev := (standard default).remove "upcase"
    let e := Expr.list [.symbol "if",
      .list [.symbol "=", .int 1, .list [.symbol "mod", .symbol "@n", .int 10]],
      .list [.symbol "let", .str "forms",
        .list [.symbol "cons", .symbol "@n",
          .list [.symbol "quote", .list [.symbol "st"]]]],
      .symbol "null"]
    let b : Bindings := Table.empty.set "@n" (.int 21)
    let c : Bindings := Table.empty.set "@n" (.str "21")
    (ev.run e b).value.1.text = "21, st" ∧
    (ev.run e c).value.1.text = "21, st" ∧
      Option.Rel Alike ((ev.run e b).value.2.get? "forms")
        ((ev.run e c).value.2.get? "forms") := by
  intro ev e b c
  have hev : ev.ExtendedBy fun _ => False :=
    (extendedBy_standard default _).remove "upcase"
  have htext : Integer.text 21 = "21" := by decide +kernel
  have hbindings : AlikeBindings b c :=
    AlikeBindings.set (fun _ => .none) "@n" (htext ▸ Alike.intText 21)
  have he : "+" ∉ e.operators ∧ "eq" ∉ e.operators := by decide +kernel
  obtain ⟨-, -, hread, hafter⟩ := run_alike hev he hbindings
  have hvalue : (ev.run e b).value.1.text = "21, st" := by decide +kernel
  exact ⟨hvalue, hread ▸ hvalue, hafter "forms"⟩

end Phrasebook

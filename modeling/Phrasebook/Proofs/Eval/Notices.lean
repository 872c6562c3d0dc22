import Mathlib
import Phrasebook.Eval.Evaluator

/-!
# What an evaluation may notice

A property of events is followed through a computation together with a property
of its value. The forms and the primitives notice nothing by themselves and
never report an unknown operator: whatever an operation notices comes from the
operands that it evaluates, and an unknown operator can only be the head of a
list.
-/

namespace Phrasebook

variable {α β : Type}

namespace Event

def unknownOperator? : Event → Option String
  | .degraded _ (.unknownOperator name) _ => some name
  | _ => none

end Event

namespace Logged

/-- Every event noticed has the property. -/
def Only (P : Event → Prop) (x : Logged α) : Prop :=
  ∀ e ∈ x.log, P e

variable {P : Event → Prop}

theorem only_pure (a : α) : Only P (Pure.pure a) := by
  simp [Only]

theorem only_tell {e : Event} (h : P e) : Only P (tell e) := by
  simpa [Only, tell] using h

theorem Only.bind {x : Logged α} {f : α → Logged β} (hx : x.Only P)
    (hf : (f x.value).Only P) : (x >>= f).Only P := by
  intro e he
  rw [log_bind] at he
  rcases List.mem_append.mp he with he | he
  · exact hx e he
  · exact hf e he

end Logged

namespace Eval

/-- Under all bindings every event noticed has the one property, and the value
has the other. -/
def Ensures (P : Event → Prop) (Q : α → Prop) (x : Eval α) : Prop :=
  ∀ b, (x.run b).Only P ∧ Q (x.run b).value.1

/-- Under all bindings every event noticed has the property. -/
abbrev Notices (P : Event → Prop) (x : Eval α) : Prop :=
  x.Ensures P fun _ => True

variable {P : Event → Prop} {Q : α → Prop} {R : β → Prop}

theorem ensures_pure {a : α} (h : Q a) : Ensures P Q (pure a) :=
  fun _ => ⟨Logged.only_pure _, h⟩

theorem Ensures.bind {x : Eval α} {f : α → Eval β} (hx : x.Ensures P Q)
    (hf : ∀ a, Q a → (f a).Ensures P R) : (x >>= f).Ensures P R := by
  intro b
  obtain ⟨hlog, hvalue⟩ := hx b
  obtain ⟨hlog', hvalue'⟩ := hf _ hvalue (x.run b).value.2
  rw [StateT.run_bind]
  exact ⟨hlog.bind hlog', hvalue'⟩

theorem Ensures.mono {R : α → Prop} {x : Eval α} (hx : x.Ensures P Q)
    (h : ∀ a, Q a → R a) :
    x.Ensures P R :=
  fun b => ⟨(hx b).1, h _ (hx b).2⟩

theorem Ensures.map {x : Eval α} {f : α → β} (hx : x.Ensures P Q)
    (hf : ∀ a, Q a → R (f a)) :
    (f <$> x).Ensures P R := by
  rw [map_eq_pure_bind]
  exact hx.bind fun a ha => ensures_pure (hf a ha)

theorem notices_tell {e : Event} (h : P e) : Notices P (tell e) := by
  intro b
  refine ⟨?_, trivial⟩
  have hrun : ((tell e).run b).log = [e] := rfl
  simpa [Logged.Only, hrun] using h

theorem notices_lookup (name : String) : Notices P (lookup name) :=
  fun _ => ⟨Logged.only_pure _, trivial⟩

theorem notices_assign (name : String) (v : Value) :
    Notices P (assign name v) :=
  fun _ => ⟨Logged.only_pure _, trivial⟩

end Eval

/-! ## Operands -/

namespace Operand

open Eval (Notices ensures_pure)

variable {P : Event → Prop} {os : List Operand}

theorem notices_runAll (h : ∀ o ∈ os, o.run.Notices P) :
    (runAll os).Notices P := by
  induction os with
  | nil => exact ensures_pure trivial
  | cons o os ih =>
      obtain ⟨ho, hos⟩ := List.forall_mem_cons.mp h
      exact ho.bind fun v _ => (ih hos).bind fun vs _ => ensures_pure trivial

theorem notices_runEvery (h : ∀ o ∈ os, o.run.Notices P) :
    (runEvery os).Notices P := by
  induction os with
  | nil => exact ensures_pure trivial
  | cons o os ih =>
      obtain ⟨ho, hos⟩ := List.forall_mem_cons.mp h
      refine ho.bind fun v _ => ?_
      by_cases hv : v.truthy = true
      · rw [if_pos hv]
        exact ih hos
      · rw [if_neg hv]
        exact ensures_pure trivial

theorem notices_runSome (h : ∀ o ∈ os, o.run.Notices P) :
    (runSome os).Notices P := by
  induction os with
  | nil => exact ensures_pure trivial
  | cons o os ih =>
      obtain ⟨ho, hos⟩ := List.forall_mem_cons.mp h
      refine ho.bind fun v _ => ?_
      by_cases hv : v.truthy = true
      · rw [if_pos hv]
        exact ensures_pure trivial
      · rw [if_neg hv]
        exact ih hos

end Operand

/-! ## Operations -/

/-- The result is no complaint about an unknown operator. -/
def KnowsOperator (result : Except EvalError Value) : Prop :=
  ∀ name, result ≠ .error (.unknownOperator name)

@[simp] theorem knowsOperator_ok (v : Value) : KnowsOperator (.ok v) := by
  simp [KnowsOperator]

@[simp] theorem knowsOperator_error (error : EvalError) :
    KnowsOperator (.error error) ↔ ∀ name, error ≠ .unknownOperator name := by
  simp [KnowsOperator]

@[simp] theorem EvalError.mismatch_ne_unknownOperator (operator : String)
    (v : Value)
    (name : String) : mismatch operator v ≠ unknownOperator name := by
  simp [mismatch]

@[simp] theorem Arithmetic.knowsOperator_apply (op : Arithmetic) (name : String)
    (l r : Value) :
    KnowsOperator (op.apply name l r) := by
  unfold Arithmetic.apply
  dsimp only
  split
  · split
    · simp
    · split <;> simp
  · split <;> simp

namespace Primitive

@[simp] theorem knowsOperator_remainder (name : String) (l r : Value) :
    KnowsOperator (remainder name l r) := by
  unfold remainder
  split
  · split <;> simp
  · simp
  · simp

@[simp] theorem knowsOperator_map_regex (f : Regex.Program → Value)
    (literal : String) :
    KnowsOperator (f <$> regex literal) := by
  unfold regex
  cases Regex.ofLiteral literal <;>
    simp [Functor.map, Except.map, Except.mapError]

@[simp] theorem knowsOperator_moment (form : DateForm) (text : String) :
    KnowsOperator (moment form text) := by
  unfold moment
  dsimp only
  split <;> simp

theorem knowsOperator_apply (clock : Moment) (p : Primitive) (name : String)
    (args : List Value) : KnowsOperator (p.apply clock name args) := by
  unfold Primitive.apply
  split <;> try simp
  split <;> simp

end Primitive

namespace Evaluator

open Eval (Ensures Notices ensures_pure notices_assign)

variable {P : Event → Prop} {ev : Evaluator}

theorem notices_listOperand {o : Operand} (h : o.run.Notices P) :
    (ev.listOperand o).Notices P := by
  unfold listOperand
  split
  · exact ensures_pure trivial
  · exact h

/-- What a form notices comes from its operands, and a form knows its
operator. -/
theorem ensures_form (f : Form) (name : String) {args : List Operand}
    (h : ∀ o ∈ args, o.run.Notices P) :
    (ev.form f name args).Ensures P KnowsOperator := by
  have hok : ∀ (v : Value) (_ : True), KnowsOperator (.ok v) :=
    fun v _ => knowsOperator_ok v
  unfold form
  split
  · exact ensures_pure (by simp)
  · refine (h _ (by simp)).bind fun v _ => ?_
    split <;> exact ensures_pure (by simp)
  · refine (h _ (by simp)).bind fun v _ => ?_
    split <;> exact ensures_pure (by simp)
  · refine (h _ (by simp)).bind fun v _ => ?_
    split
    · exact (h _ (by simp)).map hok
    · exact ensures_pure (by simp)
  · refine (h _ (by simp)).bind fun v _ => ?_
    split <;> exact (h _ (by simp)).map hok
  · exact (Operand.notices_runEvery h).map (by simp)
  · exact (Operand.notices_runSome h).map (by simp)
  · exact ensures_pure (by simp)
  · exact ensures_pure (by simp)
  · split
    · refine (h _ (by simp)).bind fun v _ => ?_
      exact (notices_assign _ v).bind fun _ _ => ensures_pure (by simp)
    · exact ensures_pure (by simp)
  · refine (notices_listOperand (h _ (by simp))).bind fun v _ => ?_
    split <;> exact ensures_pure (by simp)
  · refine (notices_listOperand (h _ (by simp))).bind fun list _ => ?_
    exact (h _ (by simp)).bind fun v _ => ensures_pure (by simp)
  · refine (notices_listOperand (h _ (by simp))).bind fun list _ => ?_
    exact (h _ (by simp)).bind fun v _ => ensures_pure (by simp)
  all_goals exact ensures_pure (by simp)

/-- The forms that take a list without an operation literally do not evaluate
it. -/
theorem form_literal {f : Form} (hf : f = .count ∨ f = .all ∨ f = .any)
    {e : Expr} (he : ev.isLiteralList e = true) (name : String) (x : Eval Value)
    (os : List Operand) :
    ev.form f name (⟨e, x⟩ :: os) = ev.form f name (⟨e, pure .null⟩ :: os) := by
  have hlist : ev.listOperand ⟨e, x⟩ = ev.listOperand ⟨e, pure .null⟩ := by
    simp only [listOperand, he, if_true]
  rcases hf with rfl | rfl | rfl
  · cases os with
    | nil => simp only [form, hlist]
    | cons o os => rfl
  all_goals
    match os with
    | [] => rfl
    | [o] => simp only [form, hlist]
    | _ :: _ :: _ => rfl

end Evaluator
end Phrasebook

import Mathlib
import Phrasebook.Eval.Evaluator

/-!
# Evaluation without a trace

Most conditions only look at the variables. Their evaluation yields a value,
changes no variable and leaves the journal empty. What is evaluated so composes:
one lemma for each way of building a computation says what it yields, and one
for each kind of operation what a list of it yields.
-/

namespace Phrasebook

variable {α β : Type} {b : Bindings}

namespace Eval

/-- The computation yields the value, changes no variable and notices
nothing. -/
def Yields (x : Eval α) (b : Bindings) (a : α) : Prop :=
  x.run b = pure (a, b)

theorem yields_pure (a : α) : Yields (pure a) b a :=
  rfl

theorem Yields.bind {x : Eval α} {f : α → Eval β} {a : α} {c : β}
    (hx : x.Yields b a) (hf : (f a).Yields b c) : (x >>= f).Yields b c := by
  rw [Yields, StateT.run_bind, hx, pure_bind]
  exact hf

theorem Yields.map {x : Eval α} {a : α} (hx : x.Yields b a) (f : α → β) :
    (f <$> x).Yields b (f a) := by
  rw [map_eq_pure_bind]
  exact hx.bind (yields_pure (f a))

theorem yields_lookup {name : String} {v : Value} (h : b.get? name = some v) :
    (lookup name).Yields b v := by
  have hget : (lookup name).Yields b ((b.get? name).getD (.str name)) := rfl
  rwa [h, Option.getD_some] at hget

end Eval

namespace Operand

open Eval (Yields yields_pure)

def YieldAll (b : Bindings) (os : List Operand) (vs : List Value) : Prop :=
  List.Forall₂ (fun o v => o.run.Yields b v) os vs

variable {os : List Operand} {vs : List Value}

theorem YieldAll.runAll (h : YieldAll b os vs) : (runAll os).Yields b vs := by
  induction h with
  | nil => exact yields_pure []
  | cons ho _ ih => exact ho.bind (ih.bind (yields_pure _))

theorem YieldAll.runEvery (h : YieldAll b os vs) :
    (runEvery os).Yields b (vs.all Value.truthy) := by
  induction h with
  | nil => exact yields_pure true
  | @cons o v os vs ho _ ih =>
      refine ho.bind ?_
      rw [List.all_cons]
      cases v.truthy with
      | false => exact yields_pure false
      | true => exact ih

theorem YieldAll.runSome (h : YieldAll b os vs) :
    (runSome os).Yields b (vs.any Value.truthy) := by
  induction h with
  | nil => exact yields_pure false
  | @cons o v os vs ho _ ih =>
      refine ho.bind ?_
      rw [List.any_cons]
      cases v.truthy with
      | false => exact ih
      | true => exact yields_pure true

end Operand

namespace Evaluator

open Eval (Yields yields_pure)

variable {ev : Evaluator} {name : String} {args : List Expr} {vs : List Value}
    {v : Value}

theorem yieldAll_operands
    (h : List.Forall₂ (fun e v => (ev.evaluate e).Yields b v) args vs) :
    Operand.YieldAll b (ev.operands args) vs := by
  rw [operands_eq_map]
  exact List.forall₂_map_left_iff.mpr h

theorem yields_int (n : Int64) : (ev.evaluate (.int n)).Yields b (.int n) := by
  rw [evaluate]
  exact yields_pure _

theorem yields_str (s : String) : (ev.evaluate (.str s)).Yields b (.str s) := by
  rw [evaluate]
  exact yields_pure _

theorem yields_symbol (h : b.get? name = some v) :
    (ev.evaluate (.symbol name)).Yields b v := by
  rw [evaluate]
  exact Eval.yields_lookup h

theorem yields_list {head : Expr}
    (h : (ev.call head (ev.operands args)).Yields b (.ok v)) :
    (ev.evaluate (.list (head :: args))).Yields b v :=
  h.bind (yields_pure v)

theorem yields_primitive {p : Primitive}
    (hname : ev.operation? name = some (.builtin (.primitive p)))
    (hargs : List.Forall₂ (fun e v => (ev.evaluate e).Yields b v) args vs)
    (happly : p.apply ev.clock name vs = .ok v) :
    (ev.evaluate (.list (.symbol name :: args))).Yields b v := by
  have hcall : ev.call (.symbol name) (ev.operands args) =
      Operand.runAll (ev.operands args) >>= fun values =>
        pure (ev.apply name values) := by
    simp only [call, Expr.headName?, hname]
  have hresult : ev.apply name vs = .ok v := by
    simp only [apply, hname, happly]
  refine yields_list ?_
  rw [hcall, ← hresult]
  exact (yieldAll_operands hargs).runAll.bind (yields_pure _)

theorem yields_form {f : Form}
    (hname : ev.operation? name = some (.builtin (.form f)))
    (h : (ev.form f name (ev.operands args)).Yields b (.ok v)) :
    (ev.evaluate (.list (.symbol name :: args))).Yields b v := by
  have hcall : ev.call (.symbol name) (ev.operands args) =
      ev.form f name (ev.operands args) := by
    simp only [call, Expr.headName?, hname]
  exact yields_list (hcall ▸ h)

theorem operation?_standard (clock : Moment) (name : String) :
    (standard clock).operation? name =
      (Table.find? name Builtin.named).map .builtin := by
  rw [operation?, Table.get?, standard]
  induction Builtin.named with
  | nil => rfl
  | cons entry rest ih =>
      obtain ⟨key, builtin⟩ := entry
      rw [List.map_cons, Table.find?, Table.find?]
      split
      · rfl
      · exact ih

theorem operation?_named {clock : Moment} {builtin : Builtin}
    (h : Table.find? name Builtin.named = some builtin) :
    (standard clock).operation? name = some (.builtin builtin) := by
  rw [operation?_standard, h, Option.map_some]

end Evaluator
end Phrasebook

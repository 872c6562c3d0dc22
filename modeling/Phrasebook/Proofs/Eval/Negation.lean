import Mathlib
import Phrasebook.Eval.Evaluator

/-!
# Negating a conjunction or a disjunction

The negation of a conjunction is the disjunction of the negations, and the other
way round. This is a matter of effects as much as of values, for an operand may
assign to variables and leave entries in the journal, and the operands behind
the one that decides stay unevaluated. Both sides go through the same operands
and stop at the same one, so they leave the same bindings and the same journal.
-/

namespace Phrasebook

/-! ## Operands -/

namespace Operand

/-- The second operand evaluates the first, and its value is the opposite truth
value. -/
def Negates (o o' : Operand) : Prop :=
  o'.run = (fun v => .bool !v.truthy) <$> o.run

variable {os os' : List Operand}

/-- Some negation is true just where not every operand is: both stop at the
first that is not. -/
theorem runSome_eq_not_runEvery (h : List.Forall₂ Negates os os') :
    runSome os' = Bool.not <$> runEvery os := by
  induction h with
  | nil => rfl
  | cons ho _ ih =>
      rw [runSome, runEvery, ho, map_bind, bind_map_left]
      congr 1
      funext v
      cases v.truthy with
      | false => rfl
      | true => exact ih

/-- Every negation is true just where no operand is: both stop at the first that
is. -/
theorem runEvery_eq_not_runSome (h : List.Forall₂ Negates os os') :
    runEvery os' = Bool.not <$> runSome os := by
  induction h with
  | nil => rfl
  | cons ho _ ih =>
      rw [runSome, runEvery, ho, map_bind, bind_map_left]
      congr 1
      funext v
      cases v.truthy with
      | false => exact ih
      | true => rfl

end Operand

/-! ## Expressions -/

namespace Evaluator

variable {ev : Evaluator} {name : String}

/-- A list whose operation cannot fail has the value of the operation. -/
theorem evaluate_of_call {head : Expr} {args : List Expr} {x : Eval Value}
    (h : ev.call head (ev.operands args) = Except.ok <$> x) :
    ev.evaluate (.list (head :: args)) = x := by
  rw [evaluate, h, bind_map_left]
  exact bind_pure x

theorem evaluate_and (hname : ev.operation? name = some (.builtin (.form .and)))
    (es : List Expr) :
    ev.evaluate (.list (.symbol name :: es)) = .bool <$> Operand.runEvery
      (ev.operands es) := by
  apply evaluate_of_call
  simp only [call, Expr.headName?, hname, form, Functor.map_map]

theorem evaluate_or (hname : ev.operation? name = some (.builtin (.form .or)))
    (es : List Expr) :
    ev.evaluate (.list (.symbol name :: es)) = .bool <$>
      Operand.runSome (ev.operands es) := by
  apply evaluate_of_call
  simp only [call, Expr.headName?, hname, form, Functor.map_map]

theorem evaluate_not
    (hname : ev.operation? name = some (.builtin (.primitive .not)))
    (e : Expr) :
    ev.evaluate (.list [.symbol name, e]) = (fun v => .bool !v.truthy) <$>
      ev.evaluate e := by
  apply evaluate_of_call
  simp only [call, Expr.headName?, hname, operands, Operand.runAll, apply,
    Primitive.apply, map_eq_pure_bind, bind_assoc, pure_bind]

theorem negates_operands
    (hname : ev.operation? name = some (.builtin (.primitive .not)))
    (es : List Expr) :
    List.Forall₂ Operand.Negates (ev.operands es)
      (ev.operands (es.map fun e => .list [.symbol name, e])) := by
  rw [operands_eq_map, operands_eq_map, List.map_map, List.forall₂_map_left_iff,
    List.forall₂_map_right_iff, List.forall₂_same]
  intro e _
  exact evaluate_not hname e

/-- De Morgan's laws for conjunction, disjunction and negation under whatever
names: from the same bindings both sides have the same value, leave the same
bindings and write the same journal. -/
theorem run_negated {conj disj neg : String}
    (hconj : ev.operation? conj = some (.builtin (.form .and)))
    (hdisj : ev.operation? disj = some (.builtin (.form .or)))
    (hneg : ev.operation? neg = some (.builtin (.primitive .not)))
    (es : List Expr) (b : Bindings) :
    let negated := es.map fun e => Expr.list [.symbol neg, e]
    ev.run (.list [.symbol neg, .list (.symbol conj :: es)]) b =
        ev.run (.list (.symbol disj :: negated)) b ∧
      ev.run (.list [.symbol neg, .list (.symbol disj :: es)]) b =
        ev.run (.list (.symbol conj :: negated)) b := by
  intro negated
  have hnegates :
      List.Forall₂ Operand.Negates (ev.operands es) (ev.operands negated) :=
    negates_operands hneg es
  constructor
  · rw [run, run, evaluate_not hneg, evaluate_and hconj, evaluate_or hdisj,
      Operand.runSome_eq_not_runEvery hnegates, Functor.map_map,
      Functor.map_map]
    rfl
  · rw [run, run, evaluate_not hneg, evaluate_or hdisj, evaluate_and hconj,
      Operand.runEvery_eq_not_runSome hnegates, Functor.map_map,
      Functor.map_map]
    rfl

/-- Of `(let "a" 1)`, `(frob)` and `(let "b" 2)` a conjunction evaluates the
first two and a disjunction the first. The negations do the same: `a` is set in
both, `b` in neither, and the unknown operator is noticed in the first only. -/
theorem run_negated_midway :
    let ev := standard default
    let es :=
      [Expr.list [.symbol "let", .str "a", .int 1], .list [.symbol "frob"],
      .list [.symbol "let", .str "b", .int 2]]
    let negated := es.map fun e => Expr.list [.symbol "!", e]
    let l := ev.run (.list [.symbol "!", .list (.symbol "&&" :: es)]) ∅
    let r := ev.run (.list [.symbol "!", .list (.symbol "||" :: es)]) ∅
    (ev.run (.list (.symbol "||" :: negated)) ∅ = l ∧
      ev.run (.list (.symbol "&&" :: negated)) ∅ = r) ∧
      (l.value.1.truthy = true ∧ l.value.2.names = ["a"] ∧
        l.log.map Event.line =
          ["debug: rule '(frob)' evaluated to null: unknown operator 'frob'"]) ∧
      r.value.1.truthy = false ∧ r.value.2.names = ["a"] ∧
      r.log.map Event.line = [] := by
  intro ev es negated l r
  have hconj : ev.operation? "&&" = some (.builtin (.form .and)) := rfl
  have hdisj : ev.operation? "||" = some (.builtin (.form .or)) := rfl
  have hneg : ev.operation? "!" = some (.builtin (.primitive .not)) := rfl
  have hlaws := run_negated hconj hdisj hneg es ∅
  exact ⟨⟨hlaws.1.symm, hlaws.2.symm⟩,
    ⟨by decide +kernel, by decide +kernel, by decide +kernel⟩,
    by decide +kernel, by decide +kernel, by decide +kernel⟩

end Evaluator
end Phrasebook

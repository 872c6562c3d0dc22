import Mathlib
import Phrasebook.Eval.Evaluator

/-!
# What an evaluation assigns

An evaluation executes some of the assignments that stand in its expression:
those of branches not taken, of quoted lists and of lists taken literally stay
undone. `assigned` follows an evaluation and collects the names to which it
assigns, in the order in which it does. As in the evaluator, an argument carries
what is known of its evaluation with it, so that a form needs no access to the
expressions.

Of the forms of a caller's own nothing is known, and `assigned` leaves out what
they do.
-/

namespace Phrasebook

variable {α β : Type}

/-! ## The outcome of a computation -/

namespace Eval

def value (x : Eval α) (b : Bindings) : α :=
  (x.run b).value.1

/-- The bindings behind a computation. -/
def after (x : Eval α) (b : Bindings) : Bindings :=
  (x.run b).value.2

def log (x : Eval α) (b : Bindings) : Journal :=
  (x.run b).log

variable {b : Bindings} {x : Eval α} {f : α → Eval β}

@[simp] theorem after_pure (a : α) : (pure a : Eval α).after b = b := rfl

@[simp] theorem value_bind :
    (x >>= f).value b = (f (x.value b)).value (x.after b) := rfl

@[simp] theorem after_bind :
    (x >>= f).after b = (f (x.value b)).after (x.after b) := rfl

@[simp] theorem log_bind :
    (x >>= f).log b = x.log b ++ (f (x.value b)).log (x.after b) := rfl

@[simp] theorem after_lookup (name : String) : (lookup name).after b = b := rfl

@[simp] theorem after_tell (e : Event) : (tell e).after b = b := rfl

end Eval

/-! ## Assignments -/

/-- The names to which a computation assigns under given bindings. -/
abbrev Assignments := Bindings → List String

namespace Assignments

def none : Assignments :=
  fun _ => []

/-- The assignments of a computation, and then those of what follows on its
value. -/
def andThen (first : Assignments) (x : Eval α) (rest : α → Assignments) :
    Assignments :=
  fun b => first b ++ rest (x.value b) (x.after b)

end Assignments

/-- An operand together with what its evaluation assigns. -/
structure Tracked extends Operand where
  assigned : Assignments

namespace Tracked

/-- The assignments of operands that are evaluated from left to right, up to the
first whose value does not let the evaluation go on. -/
def assignedWhile (goesOn : Value → Bool) : List Tracked → Assignments
  | [] => .none
  | o :: os =>
    o.assigned.andThen o.run fun v =>
      if goesOn v then assignedWhile goesOn os else .none

end Tracked

namespace Evaluator

/-- The operand of a form that takes a list, evaluated unless it is a list
literally. -/
def listTracked (ev : Evaluator) (o : Tracked) : Tracked where
  expr := o.expr
  run := ev.listOperand o.toOperand
  assigned := if ev.isLiteralList o.expr then .none else o.assigned

def formAssigned (ev : Evaluator) : Form → List Tracked → Assignments
  | .car, [o] => o.assigned
  | .cdr, [o] => o.assigned
  | .cond, [condition, yes] =>
    condition.assigned.andThen condition.run fun v =>
      if v.truthy then yes.assigned else .none
  | .cond, [condition, yes, no] =>
    condition.assigned.andThen condition.run fun v =>
      if v.truthy then yes.assigned else no.assigned
  | .and, os => Tracked.assignedWhile Value.truthy os
  | .or, os => Tracked.assignedWhile (fun v => !v.truthy) os
  | .assign, [target, o] =>
    match target.expr.headName? with
    | some name => o.assigned.andThen o.run fun _ _ => [name]
    | none => .none
  | .count, [o] => (ev.listTracked o).assigned
  | .all, [o, expected] =>
    (ev.listTracked o).assigned.andThen (ev.listTracked o).run fun _ =>
      expected.assigned
  | .any, [o, expected] =>
    (ev.listTracked o).assigned.andThen (ev.listTracked o).run fun _ =>
      expected.assigned
  | _, _ => .none

def callAssigned (ev : Evaluator) (head : Expr) (args : List Tracked) :
    Assignments :=
  match head.headName? with
  | none => .none
  | some name =>
    match ev.operation? name with
    | none => .none
    | some (.builtin (.form f)) => ev.formAssigned f args
    | some (.special _) => .none
    | some (.builtin (.primitive _)) | some (.applicative _) =>
      Tracked.assignedWhile (fun _ => true) args

mutual

/-- The names to which the evaluation of an expression assigns, in order. -/
def assigned (ev : Evaluator) : Expr → Assignments
  | .int _ => .none
  | .str _ => .none
  | .symbol _ => .none
  | .list [] => .none
  | .list (head :: args) => ev.callAssigned head (ev.tracked args)

def tracked (ev : Evaluator) : List Expr → List Tracked
  | [] => []
  | e :: es => ⟨⟨e, ev.evaluate e⟩, ev.assigned e⟩ :: ev.tracked es

end

theorem tracked_eq_map (ev : Evaluator) (es : List Expr) :
    ev.tracked es = es.map fun e => ⟨⟨e, ev.evaluate e⟩, ev.assigned e⟩ := by
  induction es with
  | nil => rfl
  | cons e es ih => simp [tracked, ih]

theorem map_toOperand_tracked (ev : Evaluator) (es : List Expr) :
    (ev.tracked es).map Tracked.toOperand = ev.operands es := by
  rw [tracked_eq_map, operands_eq_map, List.map_map]
  rfl

end Evaluator
end Phrasebook

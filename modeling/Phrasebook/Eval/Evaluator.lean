import Phrasebook.Eval.Builtin
import Phrasebook.Expr.Parser
import Phrasebook.Journal
import Phrasebook.Suggestion
import Phrasebook.Table

/-!
# Evaluation of rule expressions

An expression is evaluated against bindings of variables, which it may change,
and never fails: an operation that cannot be carried out yields nothing and
leaves an entry in the journal. A symbol stands for its bound value, or for its
own name. The head of a list names an operation; primitives receive the values
of the arguments, evaluated from left to right, and forms receive the arguments
as operands, which they may evaluate or not.

Evaluation is a structural recursion: an operand carries the evaluation of its
expression with it, so that a form needs no access to the evaluator.
-/

namespace Phrasebook

abbrev Bindings := Table Value

/-- A computation that may change the bindings and keeps a journal. -/
abbrev Eval := StateT Bindings Logged

namespace Eval

def tell (e : Event) : Eval Unit :=
  StateT.lift (Logged.tell e)

/-- The value of a variable, or its name if it has none. -/
def lookup (name : String) : Eval Value := do
  let b ← get
  pure ((b.get? name).getD (.str name))

def assign (name : String) (v : Value) : Eval Unit :=
  modify fun b => b.set name v

end Eval

/-- An argument that has not been evaluated, with its evaluation. -/
structure Operand where
  expr : Expr
  run : Eval Value

namespace Operand

def runAll : List Operand → Eval (List Value)
  | [] => pure []
  | o :: os => do
    let v ← o.run
    let vs ← runAll os
    pure (v :: vs)

/-- Whether each operand is true; those after the first that is not stay
unevaluated. -/
def runEvery : List Operand → Eval Bool
  | [] => pure true
  | o :: os => do
    let v ← o.run
    if v.truthy then runEvery os else pure false

/-- Whether some operand is true; those after the first that is stay
unevaluated. -/
def runSome : List Operand → Eval Bool
  | [] => pure false
  | o :: os => do
    let v ← o.run
    if v.truthy then pure true else runSome os

end Operand

inductive Operation where
  | builtin (b : Builtin)
  | applicative (run : List Value → Value)
  | special (run : List Operand → Eval Value)

def Operation.isSpecial : Operation → Bool
  | .builtin b => b.isForm
  | .applicative _ => false
  | .special _ => true

/-- The operations that rules can call, and the moment at which they are
called. -/
structure Evaluator where
  operations : Table Operation
  clock : Moment

mutual

def Expr.quote : Expr → Value
  | .int n => .int n
  | .str s => .str s
  | .symbol name => .str name
  | .list es => .list (Expr.quoteAll es)

def Expr.quoteAll : List Expr → List Value
  | [] => []
  | e :: es => e.quote :: Expr.quoteAll es

end

namespace Evaluator

def standard (clock : Moment) : Evaluator where
  operations := ⟨Builtin.named.map fun (name, b) => (name, .builtin b)⟩
  clock

def bare (clock : Moment) : Evaluator where
  operations := Table.empty
  clock

def operation? (ev : Evaluator) (name : String) : Option Operation :=
  ev.operations.get? name

def knows (ev : Evaluator) (name : String) : Bool :=
  ev.operations.contains name

def names (ev : Evaluator) : List String :=
  ev.operations.names

def isSpecial (ev : Evaluator) (name : String) : Bool :=
  match ev.operation? name with
  | some op => op.isSpecial
  | none => false

def add (ev : Evaluator) (name : String) (op : Operation) : Evaluator :=
  { ev with operations := ev.operations.set name op }

def remove (ev : Evaluator) (name : String) : Evaluator :=
  { ev with operations := ev.operations.erase name }

def apply (ev : Evaluator) (name : String) (args : List Value) :
    Except EvalError Value :=
  match ev.operation? name with
  | some (.builtin (.primitive p)) => p.apply ev.clock name args
  | some (.applicative run) => .ok (run args)
  | some (.builtin (.form _)) | some (.special _) => .error (.specialForm name)
  | none => .error (.unknownOperator name)

/-! ## Forms -/

def isHead (ev : Evaluator) (head : Expr) : Bool :=
  match head.headName? with
  | some name => ev.knows name
  | none => false

/-- Whether an expression is a list whose head does not name an operation. -/
def isLiteralList (ev : Evaluator) : Expr → Bool
  | .list [] => true
  | .list (head :: _) => !ev.isHead head
  | _ => false

/-- The value of an operand that is to be a list: a list without an operation is
one literally. -/
def listOperand (ev : Evaluator) (o : Operand) : Eval Value :=
  if ev.isLiteralList o.expr then pure o.expr.quote else o.run

/-- Whether the items of a list are equal to a value: all of them, or one. There
must be an item for either. -/
def itemsEqual (all : Bool) (list expected : Value) : Bool :=
  match list with
  | .list items =>
    let equal := fun item => Value.compare .equal item expected
    !items.isEmpty && (if all then items.all equal else items.any equal)
  | _ => false

/-- The result of a form. `name` is the name that the rule calls it by. -/
def form (ev : Evaluator) (f : Form) (name : String) (args : List Operand) :
    Eval (Except EvalError Value) :=
  match f, args with
  | .quote, [o] => pure (.ok o.expr.quote)
  | .car, [o] => do
    match ← o.run with
    | .list items => pure (.ok (items.headD .null))
    | other => pure (.error (.mismatch name other))
  | .cdr, [o] => do
    match ← o.run with
    | .list items => pure (.ok (.list items.tail))
    | other => pure (.error (.mismatch name other))
  | .cond, [condition, yes] => do
    if (← condition.run).truthy then .ok <$> yes.run else pure (.ok .null)
  | .cond, [condition, yes, no] => do
    if (← condition.run).truthy then .ok <$> yes.run else .ok <$> no.run
  | .and, os => (fun b => .ok (.bool b)) <$> Operand.runEvery os
  | .or, os => (fun b => .ok (.bool b)) <$> Operand.runSome os
  | .true, _ => pure (.ok (.bool true))
  | .false, _ => pure (.ok (.bool false))
  | .assign, [target, o] =>
    match target.expr.headName? with
    | some assigned => do
      let v ← o.run
      Eval.assign assigned v
      pure (.ok v)
    | none =>
      pure (.error (.typeMismatch name ("variable name " ++ target.expr.text)))
  | .count, [o] => do
    match ← ev.listOperand o with
    | .list items => pure (.ok (.ofLength items.length))
    | other => pure (.error (.mismatch name other))
  | .all, [o, expected] => do
    let list ← ev.listOperand o
    let expected ← expected.run
    pure (.ok (.bool (itemsEqual true list expected)))
  | .any, [o, expected] => do
    let list ← ev.listOperand o
    let expected ← expected.run
    pure (.ok (.bool (itemsEqual false list expected)))
  | .cond, os => pure (.error (.argumentCount name 3 os.length))
  | .all, os | .any, os | .assign, os =>
    pure (.error (.argumentCount name 2 os.length))
  | .quote, os | .car, os | .cdr, os | .count, os =>
    pure (.error (.argumentCount name 1 os.length))

/-! ## Evaluation -/

/-- The result of the operation that a list's head names, on the list's other
items. -/
def call (ev : Evaluator) (head : Expr) (args : List Operand) :
    Eval (Except EvalError Value) :=
  match head.headName? with
  | none => pure (.error (.invalidOperator head.text))
  | some name =>
    match ev.operation? name with
    | none => pure (.error (.unknownOperator name))
    | some (.builtin (.form f)) => ev.form f name args
    | some (.special run) => .ok <$> run args
    | some (.builtin (.primitive _)) | some (.applicative _) => do
      let values ← Operand.runAll args
      pure (ev.apply name values)

def suggestions (ev : Evaluator) : EvalError → List String
  | .unknownOperator name => Suggestion.suggest name ev.names
  | _ => []

/-- The value of a result: of a failure nothing, and an entry in the journal. -/
def settle (ev : Evaluator) (e : Expr) : Except EvalError Value → Eval Value
  | .ok v => pure v
  | .error error => do
    Eval.tell (.degraded e error (ev.suggestions error))
    pure .null

mutual

def evaluate (ev : Evaluator) : Expr → Eval Value
  | .int n => pure (.int n)
  | .str s => pure (.str s)
  | .symbol name => Eval.lookup name
  | .list [] => pure .null
  | .list (head :: args) => do
    let result ← ev.call head (ev.operands args)
    ev.settle (.list (head :: args)) result

def operands (ev : Evaluator) : List Expr → List Operand
  | [] => []
  | e :: es => ⟨e, ev.evaluate e⟩ :: ev.operands es

end

theorem operands_eq_map (ev : Evaluator) (es : List Expr) :
    ev.operands es = es.map fun e => ⟨e, ev.evaluate e⟩ := by
  induction es with
  | nil => rfl
  | cons e es ih => simp [operands, ih]

/-- The value of an expression under given bindings, with the bindings
afterwards. -/
def run (ev : Evaluator) (e : Expr) (b : Bindings) :
    Logged (Value × Bindings) :=
  (ev.evaluate e).run b

def runText (ev : Evaluator) (rule : String) (b : Bindings) :
    Logged (Value × Bindings) :=
  ev.run (Expr.parse rule) b

end Evaluator
end Phrasebook

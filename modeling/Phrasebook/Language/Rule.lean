import Phrasebook.Eval.Evaluator

/-!
# Rules

A rule has a condition and may have an operation, both written as expressions.
The condition says whether the rule holds of some variables; the operation
transforms a text. Either is evaluated on its own copy of the variables, so a
rule never changes them for another.
-/

namespace Phrasebook

structure Rule where
  keyword : String
  description : String
  examples : String
  conditions : String
  operations : Option String
  deriving DecidableEq, Repr

/-- The variable that holds the text being transformed. -/
def valueVariable : String := "@value"

namespace Rule

def condition (r : Rule) : Expr :=
  Expr.parse r.conditions

/-- The operation as an expression, unless it is missing or blank. -/
def operation? (r : Rule) : Option Expr :=
  match r.operations with
  | some text => if Text.isBlankText text then none else some (Expr.parse text)
  | none => none

def holds (r : Rule) (ev : Evaluator) (b : Bindings) : Logged Bool := do
  let (v, _) ← ev.run r.condition b
  pure v.truthy

/-- The text that the operation makes of `value`. Without an operation, or when
it yields nothing, the text stays as it is. -/
def transform (r : Rule) (ev : Evaluator) (value : String) (b : Bindings) :
    Logged String :=
  match r.operation? with
  | none => pure value
  | some e => do
    let (v, _) ← ev.run e (b.set valueVariable (.str value))
    pure (if v.isNull then value else v.text)

def first? (ev : Evaluator) (b : Bindings) : List Rule → Logged (Option Rule)
  | [] => pure none
  | r :: rest => do
    if ← r.holds ev b then pure (some r) else first? ev b rest

end Rule
end Phrasebook

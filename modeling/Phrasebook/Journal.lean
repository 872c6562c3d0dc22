import Phrasebook.Eval.Error
import Phrasebook.Expr.Basic
import Phrasebook.Text.Search

/-!
# The journal

Nothing that goes wrong stops a rendering. What was wrong is written into a
journal instead, and a computation that keeps a journal yields its value
together with the entries it wrote, in order.

A context with a bad token expression is noticed at every use but reported once
only, which is settled at the end for a whole run.
-/

namespace Phrasebook

/-- Something noticed on the way. -/
inductive Event where
  | degraded (rule : Expr) (error : EvalError) (suggestions : List String)
  | badTokenExpression (place : Nat) (context : String) (error : EvalError)
  | unresolvedToken (token label : String)
  | unknownCase (locale key token : String)
  | noContext (token : String)
  | unmapped (context : String) (parameters : Nat) (token : String)
  | missingParameter (token : String) (index : Nat)
  | noDefaultDecoration (name label : String)

inductive Level where
  | debug
  | warn
  deriving DecidableEq, Repr

def Level.word : Level → String
  | .debug => "debug"
  | .warn => "warn"

namespace Event

/-- The level of an event: a rule that fails is expected, bad language data is
not. -/
def level : Event → Level
  | .degraded .. => .debug
  | _ => .warn

def message : Event → String
  | .degraded rule error suggestions =>
    "rule '" ++ rule.text ++ "' evaluated to null: " ++ error.message ++
      if suggestions.isEmpty then ""
      else " (did you mean " ++ Text.join ", " suggestions ++ "?)"
  | .badTokenExpression _ context error =>
    "context '" ++ context ++ "': bad token expression: " ++ error.message
  | .unresolvedToken token label =>
    "unresolved token '" ++ token ++ "' in '" ++ label ++ "'"
  | .unknownCase locale key token =>
    "language '" ++ locale ++ "' has no case '" ++ key ++ "' for token '" ++
      token ++ "'"
  | .noContext token => "no language context for token '" ++ token ++ "'"
  | .unmapped context parameters token =>
    "context '" ++ context ++ "' cannot map " ++ toString parameters ++
      " parameters of token '" ++
      token ++ "'"
  | .missingParameter token index =>
    "token '" ++ token ++ "' has no parameter " ++ toString index
  | .noDefaultDecoration name label =>
    "no default decoration for '" ++ name ++ "' in '" ++ label ++ "'"

def line (e : Event) : String :=
  e.level.word ++ ": " ++ e.message

end Event

/-- Events in the order in which they were noticed. -/
abbrev Journal := List Event

namespace Journal

/-- The journal without the reports on contexts at the places `reported`, and
without a second report on any context; and the places reported now. -/
def onceFrom (reported : List Nat) : Journal → Journal × List Nat
  | [] => ([], reported)
  | e :: rest =>
    match e with
    | .badTokenExpression place _ _ =>
      if reported.contains place then onceFrom reported rest
      else
        let (kept, reported) := onceFrom (place :: reported) rest
        (e :: kept, reported)
    | _ =>
      let (kept, reported) := onceFrom reported rest
      (e :: kept, reported)

def once (j : Journal) : Journal :=
  (onceFrom [] j).1

/-- The journals of consecutive steps with each context reported in the first of
them only. -/
def onceEach (reported : List Nat) : List Journal → List Journal
  | [] => []
  | j :: rest =>
    let (kept, reported) := onceFrom reported j
    kept :: onceEach reported rest

end Journal

/-- A value with what was noticed on the way to it. -/
structure Logged (α : Type) where
  value : α
  log : Journal

namespace Logged

def pure {α : Type} (a : α) : Logged α :=
  ⟨a, []⟩

def bind {α β : Type} (x : Logged α) (f : α → Logged β) : Logged β :=
  let y := f x.value
  ⟨y.value, x.log ++ y.log⟩

def tell (e : Event) : Logged Unit :=
  ⟨(), [e]⟩

instance : Monad Logged where
  pure := Logged.pure
  bind := Logged.bind

instance : LawfulMonad Logged := LawfulMonad.mk' _
  (fun x => by
    show Logged.bind x (fun a => Logged.pure (id a)) = x
    simp [Logged.bind, Logged.pure])
  (fun a f => by
    show Logged.bind (Logged.pure a) f = f a
    simp [Logged.bind, Logged.pure])
  (fun x f g => by
    show Logged.bind (Logged.bind x f) g =
        Logged.bind x (fun a => Logged.bind (f a) g)
    simp [Logged.bind, List.append_assoc])

@[simp] theorem value_pure {α : Type} (a : α) :
    (Pure.pure a : Logged α).value = a := rfl

@[simp] theorem log_pure {α : Type} (a : α) :
    (Pure.pure a : Logged α).log = [] := rfl

@[simp] theorem value_bind {α β : Type} (x : Logged α) (f : α → Logged β) :
    (x >>= f).value = (f x.value).value := rfl

@[simp] theorem log_bind {α β : Type} (x : Logged α) (f : α → Logged β) :
    (x >>= f).log = x.log ++ (f x.value).log := rfl

end Logged
end Phrasebook

import Phrasebook.Language.Rule
import Phrasebook.Language.Source

/-!
# Contexts

A context makes one grammatical decision, such as the plural category of a count
or the gender of a person: its rules are tried in order on the variables taken
from a subject, and the keyword of the first that holds is the decision. The
rule with the default keyword is not tried; it stands in when no other holds.
-/

namespace Phrasebook

/-- The phrase templates of a context by rule keyword, in the order of the
keywords. -/
abbrev Templates := List (String × String)

/-- How the parameters of a piped token are turned into phrases: in one way for
any number of them, or in a way that depends on their number. -/
inductive Mapping where
  | single (templates : Templates)
  | byArity (entries : List (Option Templates))
  deriving DecidableEq, Repr

def Mapping.forArity? : Mapping → Nat → Option Templates
  | .single templates, _ => some templates
  | .byArity _, 0 => none
  | .byArity entries, arity + 1 => (entries[arity]?).join

/-- A grammatical decision. -/
structure Context where
  keyword : String
  description : String
  keys : List String
  defaultKey : String
  tokenExpression : Option String
  variableNames : List String
  sources : Table Source
  mapping : Option Mapping
  rules : List Rule

namespace Context

def variableValue (c : Context) (s : Subject) (name : String) : Value :=
  ((c.sources.get? name).getD (Source.ofVariable name)).resolve s

def bindings (c : Context) (s : Subject) : Bindings :=
  Table.ofList (c.variableNames.map fun name => (name, c.variableValue s name))

def rule? (c : Context) (keyword : String) : Option Rule :=
  c.rules.find? fun r => r.keyword == keyword

/-- The rule that stands in when no other holds. -/
def fallback? (c : Context) : Option Rule :=
  c.rule? c.defaultKey

/-- The first rule that holds of a subject, the default rule aside. -/
def matchingRule? (c : Context) (ev : Evaluator) (s : Subject) :
    Logged (Option Rule) :=
  Rule.first? ev (c.bindings s)
    (c.rules.filter fun r => r.keyword != c.defaultKey)

/-- The first rule that holds of a subject, or else the default rule. -/
def ruleFor? (c : Context) (ev : Evaluator) (s : Subject) :
    Logged (Option Rule) := do
  let r ← c.matchingRule? ev s
  pure (r.orElse fun _ => c.fallback?)

/-- Whether the context governs tokens of the given name, by its token
expression. `place` is where the language lists the context. -/
def governs (c : Context) (place : Nat) (token : String) : Logged Bool :=
  match c.tokenExpression with
  | none => pure false
  | some literal =>
    match Primitive.regex literal with
    | .ok program => pure (program.matchesText token)
    | .error error => do
      Logged.tell (.badTokenExpression place c.keyword error)
      pure false

end Context
end Phrasebook

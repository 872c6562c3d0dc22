import Phrasebook.Language.Case

/-!
# Checking the grammar of a language

The rules of a language are checked without values: a text that is not one
complete expression, an operator that the evaluator does not know, a context
without a rule to fall back on, and a keyword that is given twice are each
reported.
-/

namespace Phrasebook
namespace Lint

/-- The two texts of a rule. -/
inductive Field where
  | conditions
  | operations
  deriving DecidableEq, Repr

def Field.word : Field → String
  | .conditions => "conditions"
  | .operations => "operations"

inductive Keyed where
  | context
  | case
  | rule
  deriving DecidableEq, Repr

def Keyed.word : Keyed → String
  | .context => "context"
  | .case => "case"
  | .rule => "rule"

inductive Warning where
  | unparseable (owner rule : String) (field : Field) (error : Expr.ParseError)
  | unknownOperator (owner rule operator : String) (suggestions : List String)
  | missingFallback (context defaultKey : String)
  | duplicateKeyword (what : Keyed) (keyword owner : String)
  deriving DecidableEq, Repr

def Warning.message : Warning → String
  | .unparseable owner rule field error =>
    owner ++ " rule '" ++ rule ++ "': cannot parse " ++ field.word ++ ": " ++
      error.message
  | .unknownOperator owner rule operator suggestions =>
    owner ++ " rule '" ++ rule ++ "': unknown operator '" ++ operator ++ "'" ++
      if suggestions.isEmpty then ""
      else " (did you mean: " ++ Text.join ", " suggestions ++ "?)"
  | .missingFallback context defaultKey =>
    "context '" ++ context ++ "' has no fallback rule '" ++ defaultKey ++ "'"
  | .duplicateKeyword what keyword owner =>
    "duplicate " ++ what.word ++ " keyword '" ++ keyword ++ "' in " ++ owner

/-! ## Keywords -/

/-- The keywords that occur again, each once, at its second occurrence. `seen`
are the keywords before, `reported` those that were reported already. -/
def repeatedFrom (seen reported : List String) : List String → List String
  | [] => []
  | k :: ks =>
    if seen.contains k then
      if reported.contains k then repeatedFrom seen reported ks
      else k :: repeatedFrom seen (k :: reported) ks
    else
      repeatedFrom (k :: seen) reported ks

def duplicates (what : Keyed) (owner : String) (keywords : List String) :
    List Warning :=
  (repeatedFrom [] [] keywords).map fun k => .duplicateKeyword what k owner

/-! ## Operators -/

/-- The operators whose first argument may be a list taken literally. -/
def takesList (operator : Option String) : Bool :=
  operator = some "count" || operator = some "all" || operator = some "any"

/-- The operator of a list, unless the evaluator knows it. -/
def unknownHead (ev : Evaluator) (e : Expr) : List String :=
  match e.operator? with
  | some name => if ev.knows name then [] else [name]
  | none => []

mutual

def unknown (ev : Evaluator) : Expr → List String
  | .list [] => []
  | .list [head] => unknownHead ev (.list [head]) ++ unknown ev head
  | .list (head :: first :: rest) =>
    let operator := Expr.operator? (.list (head :: first :: rest))
    let literal := takesList operator && ev.isLiteralList first
    unknownHead ev (.list (head :: first :: rest)) ++ unknown ev head ++
      (if literal then [] else unknown ev first) ++ unknownAll ev rest
  | _ => []

def unknownAll (ev : Evaluator) : List Expr → List String
  | [] => []
  | e :: es => unknown ev e ++ unknownAll ev es

end

/-- The names in their order, each once. -/
def inOrder (names : List String) : List String :=
  (names.mergeSort fun a b => !decide (b < a)).eraseReps

def operators (ev : Evaluator) (owner rule : String) (e : Expr) :
    List Warning :=
  (inOrder (unknown ev e)).map fun name =>
    .unknownOperator owner rule name (Suggestion.suggest name ev.names)

/-! ## Rules, contexts and languages -/

/-- The warnings about a text of a rule. A blank text is not looked at. -/
def source (ev : Evaluator) (owner rule : String) (field : Field)
    (text : String) :
    List Warning :=
  if Text.isBlankText text then []
  else
    match Expr.parse? text with
    | .ok e => operators ev owner rule e
    | .error error => [.unparseable owner rule field error]

def ruleSources (ev : Evaluator) (owner : String) (r : Rule) : List Warning :=
  source ev owner r.keyword .conditions r.conditions ++
    match r.operations with
    | some text => source ev owner r.keyword .operations text
    | none => []

def rules (ev : Evaluator) (owner : String) (rs : List Rule) : List Warning :=
  duplicates .rule owner (rs.map (·.keyword)) ++ rs.flatMap
    (ruleSources ev owner)

def context (ev : Evaluator) (c : Context) : List Warning :=
  (if !c.rules.isEmpty && c.fallback?.isNone
    then [.missingFallback c.keyword c.defaultKey]
    else []) ++
    rules ev ("context '" ++ c.keyword ++ "'") c.rules

def case (ev : Evaluator) (c : Case) : List Warning :=
  rules ev ("case '" ++ c.keyword ++ "'") c.rules

/-- The warnings about a language, for the evaluator that it will be used
with. -/
def language (ev : Evaluator) (l : Language) : List Warning :=
  let owner := "language '" ++ l.locale ++ "'"
  duplicates .context owner (l.contexts.map (·.keyword)) ++
    duplicates .case owner (l.cases.map (·.keyword)) ++
    l.contexts.flatMap (context ev) ++ l.cases.flatMap (case ev)

end Lint
end Phrasebook

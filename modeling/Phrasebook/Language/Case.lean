import Phrasebook.Language.Context
import Phrasebook.Settings

/-!
# Cases and languages

A case inflects a text: the first of its rules that holds of the text transforms
it. A case that works word by word does so to each word on its own and leaves
tags and separators alone.

What a rendering asks of a language is its grammar, which may be kept anywhere;
a list of contexts and a list of cases is one way to keep it. Cases and grammars
stand together in one module because a case may look at the gender of the
subject, which a context of the language decides.
-/

namespace Phrasebook

/-- What a case transforms: the text as a whole, or each word. -/
inductive Application where
  | phrase
  | words
  deriving DecidableEq, Repr

structure Case where
  keyword : String
  latinName : String
  nativeName : String
  description : String
  application : Application
  rules : List Rule

/-- What is asked of the language of a label: its locale, a context by its
keyword or by the name of a token that it governs, and a case by its keyword. -/
structure Grammar where
  locale : String
  context? : (keyword : String) → Option Context
  governing? : (token : String) → Logged (Option Context)
  case? : (keyword : String) → Option Case

/-- A language that is held as the lists of its contexts and cases. -/
structure Language where
  locale : String
  name : String
  contexts : List Context
  cases : List Case

namespace Language

def bare (locale name : String) : Language where
  locale
  name
  contexts := []
  cases := []

def context? (l : Language) (keyword : String) : Option Context :=
  l.contexts.find? fun c => c.keyword == keyword

def case? (l : Language) (keyword : String) : Option Case :=
  l.cases.find? fun c => c.keyword == keyword

/-- The first context from `place` on that governs tokens of a name. -/
def governingFrom (token : String) :
    (place : Nat) → List Context → Logged (Option Context)
  | _, [] => pure none
  | place, c :: rest => do
    if ← c.governs place token then pure (some c)
    else governingFrom token (place + 1) rest

/-- The first context that governs tokens of a name. -/
def governing? (l : Language) (token : String) : Logged (Option Context) :=
  governingFrom token 0 l.contexts

def grammar (l : Language) : Grammar where
  locale := l.locale
  context? := l.context?
  governing? := l.governing?
  case? := l.case?

instance : Coe Language Grammar := ⟨grammar⟩

end Language

/-! ## Pieces of a text -/

namespace Case

def isSeparator (c : Char) : Bool :=
  Text.isBlank c || c == '/' || c == '\\'

/-- A character of a word, outside of a tag. -/
def isWordPart (c : Char) : Bool :=
  !isSeparator c && c != '<'

/-- The length of the piece at the beginning of a text: a tag up to its closing
bracket, a bracket that opens no tag, a run of separators, or a word. -/
def pieceLength : List Char → Option Nat
  | [] => none
  | c :: rest =>
    if c = '<' then
      some (if rest.contains '>' then (rest.takeWhile (· != '>')).length + 2
        else 1)
    else if isSeparator c then some ((rest.takeWhile isSeparator).length + 1)
    else some ((rest.takeWhile isWordPart).length + 1)

def pieces (s : List Char) : List (List Char) :=
  Text.claims pieceLength s

def isWord (piece : List Char) : Bool :=
  piece.head? != some '<' && !piece.all isSeparator

/-! ## Application -/

/-- The variable that rules about gender refer to. -/
def genderVariable : String := "@gender"

/-- The gender of a subject by the context of that name, or `unknown`. -/
def genderOf (g : Grammar) (s : Option Subject) : Value :=
  match s, g.context? "gender" with
  | some s, some c =>
    match (c.bindings s).get? genderVariable with
    | some v => if v.isNull then .str "unknown" else v
    | none => .str "unknown"
  | _, _ => .str "unknown"

/-- The variables for a rule: the gender is added once a rule mentions it. -/
def withGender (g : Grammar) (s : Option Subject) (r : Rule) (b : Bindings) :
    Bindings :=
  if Text.contains r.conditions genderVariable &&
    !b.contains genderVariable then
    b.set genderVariable (genderOf g s)
  else
    b

/-- What is fixed while a case is applied. -/
structure Setting where
  language : Grammar
  subject : Option Subject
  decorator : Decorator
  options : Options
  clock : Moment

/-- The text that the first rule that holds makes of `value`, or `value` itself.
Rules of cases know the standard operations only. -/
def applyRules (keyword : String) (e : Setting) (value : String)
    (b : Bindings) :
    List Rule → Logged String
  | [] => pure value
  | r :: rest => do
    let b := withGender e.language e.subject r b
    let ev := Evaluator.standard e.clock
    if ← r.holds ev b then
      let transformed ← r.transform ev value b
      pure <|
        if transformed == value || e.options.skipDecorations then transformed
        else e.decorator.case keyword value transformed
    else
      applyRules keyword e value b rest

def applyElement (c : Case) (e : Setting) (value : String) : Logged String :=
  applyRules c.keyword e value
    (Table.empty.set valueVariable (.str value)) c.rules

def applyPieces (c : Case) (e : Setting) : List (List Char) → Logged String
  | [] => pure ""
  | piece :: rest => do
    let text := String.ofList piece
    let first ← if isWord piece then c.applyElement e text else pure text
    let others ← applyPieces c e rest
    pure (first ++ others)

def apply (c : Case) (e : Setting) (value : String) : Logged String :=
  if c.rules.isEmpty then pure value
  else
    match c.application with
    | .phrase => c.applyElement e value
    | .words => c.applyPieces e (pieces value.toList)

end Case
end Phrasebook

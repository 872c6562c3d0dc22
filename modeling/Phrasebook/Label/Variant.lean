import Phrasebook.Label.Data
import Phrasebook.Label.Pattern
import Phrasebook.Language.Case
import Phrasebook.Unicode.Digit

/-!
# The phrase of a piped token

A context governs each piped token. The parameters of the token give a phrase
for each decision of the context, either with its keyword in front or through
the context's templates, in which a placeholder names a parameter and the cases
to put it through. The rule that holds of the subject then picks the phrase.
-/

namespace Phrasebook

/-- Everything a rendering reads: the data of tokens, the grammar, and the
settings. -/
structure Rendering where
  data : Table TokenData
  language : Grammar
  decorator : Decorator
  settings : Settings
  options : Options
  evaluator : Evaluator

def Rendering.caseSetting (r : Rendering) (s : Option Subject) :
    Case.Setting where
  language := r.language
  subject := s
  decorator := r.decorator
  options := r.options
  clock := r.evaluator.clock

/-! ## Templates -/

/-- Part of a template: a character, or a placeholder with its digits and its
case keys. -/
inductive Fill where
  | text (c : Char)
  | placeholder (digits : List Char) (keys : List (List Char))
  deriving DecidableEq, Repr

namespace Fill

/-- The placeholder at the beginning of a text, and the text behind it: a dollar
sign and digits in braces, with case keys behind double colons. -/
def placeholder? (s : List Char) : Option (Fill × List Char) := do
  let rest ← Label.behind? ['{', '$'] s
  let digits := rest.takeWhile Unicode.isDigit
  if digits.isEmpty then none
  else do
    let rest := rest.dropWhile Unicode.isDigit
    let after := Label.behindKeys [':', ':'] false rest
    let keys :=
      Text.splitChars [':', ':'] (rest.take (rest.length - after.length))
    let after ← Label.behind? ['}'] after
    pure (.placeholder digits (keys.filter fun k => !k.isEmpty), after)

/-- The parts of a template, the first `skip` characters being passed over. -/
def partsFrom : (skip : Nat) → List Char → List Fill
  | _, [] => []
  | skip + 1, _ :: rest => partsFrom skip rest
  | 0, c :: rest =>
    match placeholder? (c :: rest) with
    | some (p, after) => p :: partsFrom (rest.length - after.length) rest
    | none => .text c :: partsFrom 0 rest

def parts (template : String) : List Fill :=
  partsFrom 0 template.toList

end Fill

namespace Rendering

/-- A text put through cases one after the other; nothing, if the language lacks
one of them. -/
def inflect? (r : Rendering) (s : Subject) (token : String) :
    List (List Char) → String → Logged (Option String)
  | [], value => pure (some value)
  | key :: keys, value =>
    match r.language.case? (String.ofList key) with
    | none => do
      Logged.tell (.unknownCase r.language.locale (String.ofList key) token)
      pure none
    | some c => do
      let value ← c.apply (r.caseSetting (some s)) value
      inflect? r s token keys value

/-- The text for a placeholder: the parameter of that number, put through the
cases. -/
def parameter? (r : Rendering) (s : Subject) (token : String)
    (params : List String)
    (digits : List Char) (keys : List (List Char)) : Logged (Option String) :=
  if digits.all Char.isDigit then
    match (Integer.nat? digits).filter (· < UInt64.size) with
    | none => pure none
    | some index =>
      match params[index]? with
      | none => do
        Logged.tell (.missingParameter token index)
        pure none
      | some param => r.inflect? s token keys param
  else
    pure none

/-- The text of template parts with the placeholders filled in; nothing, as soon
as one of them cannot be. -/
def fillParts? (r : Rendering) (s : Subject) (token : String)
    (params : List String) :
    List Fill → Logged (Option String)
  | [] => pure (some "")
  | .text c :: rest => do
    let others ← fillParts? r s token params rest
    pure (others.map fun text => String.singleton c ++ text)
  | .placeholder digits keys :: rest => do
    match ← r.parameter? s token params digits keys with
    | none => pure none
    | some value =>
      let others ← fillParts? r s token params rest
      pure (others.map fun text => value ++ text)

def fill? (r : Rendering) (s : Subject) (token : String) (params : List String)
    (template : String) : Logged (Option String) :=
  r.fillParts? s token params (Fill.parts template)

/-- All templates filled in, under their keywords; nothing, as soon as one of
them cannot be. -/
def fillAll? (r : Rendering) (s : Subject) (token : String)
    (params : List String) :
    Templates → Logged (Option (List (String × String)))
  | [] => pure (some [])
  | (keyword, template) :: rest => do
    match ← r.fill? s token params template with
    | none => pure none
    | some phrase =>
      let others ← fillAll? r s token params rest
      pure (others.map fun phrases => (keyword, phrase) :: phrases)

/-! ## Phrases -/

def keyed? (param : String) : Option (String × String) :=
  (Text.cut? [':'] param.toList).map fun (keyword, phrase) =>
    (String.ofList (Text.trimBoth keyword),
      String.ofList (Text.trimBoth phrase))

/-- Whether the parameters bring their keywords, judged by the first. -/
def bringsKeywords : List String → Bool
  | [] => false
  | param :: _ => param.toList.contains ':'

def phrases? (r : Rendering) (c : Context) (token : TokenName)
    (params : List String) (s : Subject) : Logged (Option (Table String)) :=
  if bringsKeywords params then
    pure (some (Table.ofList (params.filterMap keyed?)))
  else
    match c.mapping.bind fun m => m.forArity? params.length with
    | none => do
      Logged.tell (.unmapped c.keyword params.length token.full)
      pure none
    | some templates => do
      let filled ← r.fillAll? s token.full params templates
      pure (filled.map Table.ofList)

/-- The context of a piped token: the one that its first context key names, or
else the one that governs its name. -/
def contextOf? (r : Rendering) (token : TokenName) : Logged (Option Context) :=
  match token.contextKeys with
  | keyword :: _ => pure (r.language.context? keyword)
  | [] => r.language.governing? token.short

/-- The phrase of a piped token for a subject, before the value is put into
it. -/
def variant? (r : Rendering) (token : TokenName) (params : List String)
    (s : Subject) :
    Logged (Option String) := do
  match ← r.contextOf? token with
  | none =>
    Logged.tell (.noContext token.full)
    pure none
  | some c =>
    match ← r.phrases? c token params s with
    | none => pure none
    | some phrases =>
      let rule ← c.matchingRule? r.evaluator s
      pure <|
        (rule.bind fun rule => phrases.get? rule.keyword).orElse fun _ =>
          phrases.get? c.defaultKey

end Rendering
end Phrasebook

import Phrasebook.Label.Extract
import Phrasebook.Label.Variant

/-!
# Filling in the tokens of a label

Each token of a label is resolved to a value, the value is put through the cases
that the token asks for, and every occurrence of the token is replaced by the
result. A token that cannot be resolved stays in the label as it is.
-/

namespace Phrasebook
namespace Rendering

/-- The value of a data token. The configured text stands in only where no data
is given at all. -/
def dataValue? (r : Rendering) (name : TokenName) : Option String :=
  match r.data.get? name.short with
  | some d => d.text?
  | none => r.settings.dataDefaults.get? name.short

def methodValue? (r : Rendering) (object method : String) : Option String := do
  let d ← r.data.get? object
  let s ← d.subject?
  if s.isNull then none else TokenData.attributeText? s method

/-- The text of a phrase with the value put in front of it, or in place of the
name of the token between number signs. -/
def spliceValue? (separator : Separator) (short : String)
    (value : Option String) (phrase : String) : Option String :=
  match separator with
  | .display => value.map fun v => v ++ " " ++ phrase
  | .substitute =>
    let mark := "#" ++ short ++ "#"
    if Text.contains phrase mark then value.map fun v =>
      Text.replace phrase mark v
    else some phrase

def pipedValue? (r : Rendering) (name : TokenName) (separator : Separator)
    (params : List String) : Logged (Option String) :=
  match r.data.get? name.short with
  | none => pure none
  | some d =>
    match d.subject? with
    | none => pure none
    | some s => do
      let phrase ← r.variant? name params s
      pure (phrase.bind (spliceValue? separator name.short d.text?))

def value? (r : Rendering) (t : Token) : Logged (Option String) :=
  match t with
  | .data name => pure (r.dataValue? name)
  | .method _ object method => pure (r.methodValue? object method)
  | .piped name separator params => r.pipedValue? name separator params

def subject? (r : Rendering) (t : Token) : Option Subject :=
  (r.data.get? t.subjectName).bind TokenData.subject?

/-- A value put through cases one after the other; a case that the language
lacks is passed over. -/
def inflect (r : Rendering) (s : Option Subject) (token : String) :
    List String → String → Logged String
  | [], value => pure value
  | key :: keys, value =>
    match r.language.case? key with
    | none => do
      Logged.tell (.unknownCase r.language.locale key token)
      inflect r s token keys value
    | some c => do
      let value ← c.apply (r.caseSetting s) value
      inflect r s token keys value

def inflected (r : Rendering) (t : Token) (value : String) : Logged String :=
  if r.settings.languageCases then
    r.inflect (r.subject? t) t.full t.name.caseKeys value
  else pure value

/-- The text that takes the place of a token, if it may be filled in and can be
resolved. `label` is the label as it stands. -/
def replacement? (r : Rendering) (t : Token) (label : String) :
    Logged (Option String) :=
  if r.options.allows t.short then do
    match ← r.value? t with
    | none =>
      Logged.tell (.unresolvedToken t.full label)
      pure none
    | some value =>
      let value ← r.inflected t value
      pure (some (r.decorator.token t value))
  else
    pure none

/-- A label with every occurrence of a token filled in. -/
def substitute (r : Rendering) (t : Token) (label : String) :
    Logged String := do
  match ← r.replacement? t label with
  | none => pure label
  | some text => pure (Text.replace label t.full text)

def substituteAll (r : Rendering) : List Token → String → Logged String
  | [], label => pure label
  | t :: rest, label => do
    let label ← r.substitute t label
    substituteAll r rest label

def fillTokens (r : Rendering) (label : String) : Logged String :=
  r.substituteAll (Label.tokens label) label

end Rendering
end Phrasebook

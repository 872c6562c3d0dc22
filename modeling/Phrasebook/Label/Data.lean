import Phrasebook.Subject

/-!
# The data of tokens

For each token a caller may supply a subject, a subject with the text to show
for it, or an object with a way of reading its text; for a piece of markup, a
decoration.
-/

namespace Phrasebook

/-- How a piece of markup changes its content. -/
inductive Decoration where
  | template (text : String)
  | attributes (values : Table String)
  | function (decorate : String → String)

/-- What a caller supplies under a name. -/
inductive TokenData where
  | raw (subject : Subject)
  | pair (subject : Subject) (text : String)
  | holder (subject : Subject) (text : Option String)
  | object (subject : Subject) (value attr property : Option String)
  | decoration (d : Decoration)

namespace TokenData

def subject? : TokenData → Option Subject
  | .raw s | .pair s _ | .holder s _ | .object s _ _ _ => some s
  | .decoration _ => none

/-- The attribute of a subject as a text, unless it has none or the attribute is
nothing. -/
def attributeText? (s : Subject) (name : String) : Option String :=
  match s.attribute? name with
  | some v => if v.isNull then none else some v.text
  | none => none

/-- The text that takes the place of the token. An object is read through its
value if that is given, else through its attribute, else through its
property. -/
def text? : TokenData → Option String
  | .raw s => s.display?
  | .pair _ text => some text
  | .holder _ text => text
  | .object s value attr property =>
    match value with
    | some text => some text
    | none => (attr.orElse fun _ => property).bind (attributeText? s)
  | .decoration _ => none

end TokenData
end Phrasebook

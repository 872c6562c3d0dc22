import Phrasebook.Subject

/-!
# Sources of variables

A context names the variables of its rules, and each variable has a source that
says how its value is taken from the subject of a token.
-/

namespace Phrasebook

/-- How the value of a variable is taken from a subject. -/
inductive Source where
  | itself
  | attribute (name : String)
  | listAttribute (name : String)
  | size
  deriving DecidableEq, Repr

namespace Source

/-- The source of a variable that the context does not name one for: the
attribute of the same name, apart from a few well-known names. -/
def ofVariable (name : String) : Source :=
  if name = "@n" ∨ name = "@date" ∨ name = "@time" ∨ name = "@value" then
    .itself
  else if name = "@gender" then .attribute "gender"
  else if name = "@genders" then .listAttribute "gender"
  else if name = "@size" ∨ name = "@count" then .size
  else .attribute (String.ofList (name.toList.dropWhile (· == '@')))

def resolve (source : Source) (s : Subject) : Value :=
  match source with
  | .itself => s.toValue
  | .attribute name => s.attributeValue name
  | .listAttribute name =>
    match s with
    | .list items => .list (items.map fun item => item.attributeValue name)
    | .value (.list items) => .list items
    | other => .list [other.attributeValue name]
  | .size =>
    match s with
    | .list items => .ofLength items.length
    | .value (.list items) => .ofLength items.length
    | .value .null => .int 0
    | _ => .int 1

end Source
end Phrasebook

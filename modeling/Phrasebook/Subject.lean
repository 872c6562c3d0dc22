import Phrasebook.Table
import Phrasebook.Value.Basic

/-!
# Subjects

What a token of a label is about: a plain value, a map of attributes, an object
of the host application, or a list of subjects. A subject is asked for its
attributes and for how it reads.
-/

namespace Phrasebook

/-- What rules are evaluated against. -/
inductive Subject where
  | value (v : Value)
  | map (attributes : Table Value)
  | object (attribute? : String → Option Value) (display? : Option String)
  | list (items : List Subject)

namespace Subject

def attribute? (s : Subject) (name : String) : Option Value :=
  match s with
  | .map attributes => attributes.get? name
  | .object attribute? _ => attribute? name
  | .value _ | .list _ => none

mutual

/-- How a subject reads in a label. Nothing and maps do not read as anything,
nor does a list with an item that does not. -/
def display? : Subject → Option String
  | .value .null => none
  | .value v => some v.text
  | .map _ => none
  | .object _ display? => display?
  | .list items => (displays? items).map (Text.join ", ")

def displays? : List Subject → Option (List String)
  | [] => some []
  | s :: rest => do
    let text ← s.display?
    let texts ← displays? rest
    pure (text :: texts)

end

def value? : Subject → Option Value
  | .value v => some v
  | _ => none

def isNull : Subject → Bool
  | .value v => v.isNull
  | _ => false

mutual

/-- The subject as a value: a list item by item, and an object by how it
reads. -/
def toValue : Subject → Value
  | .value v => v
  | .list items => .list (toValues items)
  | .map _ => .null
  | .object _ display? => (display?.map Value.str).getD .null

def toValues : List Subject → List Value
  | [] => []
  | s :: rest => s.toValue :: toValues rest

end

/-- The attribute of a subject as a value. A plain text stands for each of its
attributes, so that `female` can take the place of an object with a gender. -/
def attributeValue (s : Subject) (name : String) : Value :=
  match s with
  | .value (.str text) => .str text
  | other => (other.attribute? name).getD .null

end Subject
end Phrasebook

import Phrasebook.Text.Blank
import Phrasebook.Unicode.Word

/-!
# Markup

Markup marks stretches of a label as elements: in the short form `[bold: text]`,
or in the long form `[link]text[/link]`. A label is cut into fragments, of which
every character belongs to exactly one, and the fragments are read into a tree
of nodes below a reserved root element.

Reading never fails. A short element ends at the next closing bracket, a long
one at its own closing tag, and an element that is not closed ends with the
label. A fragment that opens or closes nothing is text.
-/

namespace Phrasebook
namespace Markup

inductive Node where
  | text (s : String)
  | element (name : String) (children : List Node)
  deriving Inhabited

/-- The two ways to write an element. -/
inductive ElementForm where
  | short
  | long
  deriving DecidableEq, Repr

/-- The name of the element around the whole label. -/
def rootName : List Char :=
  ['t', 'm', 'l']

/-! ## Fragments -/

/-- A stretch of a label: the beginning of an element, a closing tag, a closing
bracket, or anything else. -/
inductive Fragment where
  | opening (form : ElementForm) (name : List Char)
  | closingTag (name : List Char)
  | closingBracket
  | plain (chars : List Char)
  deriving DecidableEq, Repr

namespace Fragment

def chars : Fragment → List Char
  | .opening .short name => '[' :: name ++ [':']
  | .opening .long name => '[' :: name ++ [']']
  | .closingTag name => '[' :: '/' :: name ++ [']']
  | .closingBracket => [']']
  | .plain cs => cs

def isPlain (c : Char) : Bool :=
  c != '[' && c != ']'

/-- The fragment that begins with an opening bracket before `rest`. -/
def bracketed (rest : List Char) : Fragment :=
  let name := rest.takeWhile Unicode.isWord
  match rest.drop name.length with
  | ':' :: _ => .opening .short name
  | ']' :: _ => .opening .long name
  | _ =>
    match rest with
    | '/' :: tag =>
      let name := tag.takeWhile Unicode.isWord
      if (tag.drop name.length).head? = some ']' then .closingTag name
        else .plain ['[']
    | _ => .plain ['[']

/-- The fragment that begins with the character `c` before `rest`. -/
def begin (c : Char) (rest : List Char) : Fragment :=
  if c = '[' then bracketed rest
  else if c = ']' then .closingBracket
  else .plain (c :: rest.takeWhile isPlain)

def splitFrom : (skip : Nat) → List Char → List Fragment
  | _, [] => []
  | skip + 1, _ :: rest => splitFrom skip rest
  | 0, c :: rest =>
    let f := begin c rest
    f :: splitFrom (f.chars.length - 1) rest

def split (s : List Char) : List Fragment :=
  splitFrom 0 s

end Fragment

/-! ## The tree -/

/-- An element that is open: its form and name, whether the first text in it is
still to come, and its content so far in reverse. -/
structure OpenElement where
  form : ElementForm
  name : List Char
  awaitsText : Bool
  children : List Node

namespace OpenElement

/-- An element that has just been opened. The first text in a short one loses
the blanks in front of it. -/
def start (form : ElementForm) (name : List Char) : OpenElement where
  form
  name
  awaitsText := form = .short
  children := []

def toNode (e : OpenElement) : Node :=
  .element (String.ofList e.name) e.children.reverse

def push (e : OpenElement) (n : Node) : OpenElement :=
  { e with children := n :: e.children }

def pushText (e : OpenElement) (s : List Char) : OpenElement :=
  let text := if e.awaitsText then Text.trimLeft s else s
  { e with
    children := .text (String.ofList text) :: e.children
    awaitsText := false }

/-- Whether a fragment closes the element. -/
def closedBy (e : OpenElement) (f : Fragment) : Bool :=
  match e.form, f with
  | .short, .closingBracket => true
  | .long, .closingTag name => name == e.name
  | _, _ => false

/-- Whether a fragment ends the element from outside, which the closing tag of
the root does. -/
def endedBy (e : OpenElement) (f : Fragment) : Bool :=
  e.name != rootName && f == .closingTag rootName

end OpenElement

/-- The tree of the elements that are open, the innermost and those around it,
when all end. -/
def closeAll (here : OpenElement) : List OpenElement → Node
  | [] => here.toNode
  | outer :: rest => closeAll (outer.push here.toNode) rest

/-- The elements that are open once those that a fragment ends from outside are
closed. -/
def endOuter (f : Fragment) (here : OpenElement) :
    List OpenElement → OpenElement × List OpenElement
  | [] => (here, [])
  | outer :: rest =>
    if here.endedBy f then endOuter f (outer.push here.toNode) rest
    else (here, outer :: rest)

/-- What reading a label yields: its tree, and the names of its elements in the
order in which they were first opened, without the reserved name. -/
structure Reading where
  tree : Node
  names : List String

/-- The names with one more, unless it is reserved or among them. -/
def note (names : List String) (name : List Char) : List String :=
  let text := String.ofList name
  if name = rootName ∨ names.contains text then names else names ++ [text]

/-- The reading of some fragments inside the elements that are open, after the
given names. It ends where the outermost element is closed. -/
def build (names : List String) (here : OpenElement)
    (around : List OpenElement) :
    List Fragment → Reading
  | [] => ⟨closeAll here around, names⟩
  | f :: rest =>
    let (here, around) := endOuter f here around
    if here.closedBy f then
      match around with
      | [] => ⟨here.toNode, names⟩
      | outer :: around => build names (outer.push here.toNode) around rest
    else
      match f with
      | .opening form name =>
        build (note names name) (.start form name) (here :: around) rest
      | f => build names (here.pushText f.chars) around rest

def wrap (label : List Char) : List Char :=
  (Fragment.opening .long rootName).chars ++ label ++
    (Fragment.closingTag rootName).chars

/-- The reading of a label. Its first fragment is always the one that opens the
root. -/
def read (label : String) : Reading :=
  match Fragment.split (wrap label.toList) with
  | .opening form name :: rest =>
    build (note [] name) (.start form name) [] rest
  | _ => ⟨.text label, []⟩

end Markup
end Phrasebook

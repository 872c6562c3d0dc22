import Phrasebook.Label.Token
import Phrasebook.Unicode.Word

/-!
# The written form of tokens

Each kind of token has a pattern. A scanner looks at the beginning of a text and
says what is left behind a token of its kind; where a token begins there is at
most one way to read it, so the scanners never go back.
-/

namespace Phrasebook
namespace Label

open Text

def behind? (start : List Char) (s : List Char) : Option (List Char) :=
  if start.isPrefixOf s then some (s.drop start.length) else none

/-- The text behind a run of word characters, of which there must be one at
least. -/
def behindWord? (s : List Char) : Option (List Char) :=
  match s with
  | [] => none
  | c :: rest =>
    if Unicode.isWord c then some (rest.dropWhile Unicode.isWord) else none

/-- The text behind one key: its mark, blanks where they are allowed, and a
word. -/
def behindKey? (mark : List Char) (gap : Bool) (s : List Char) :
    Option (List Char) :=
  (behind? mark s).bind fun rest =>
    behindWord? (if gap then trimLeft rest else rest)

/-- The text behind as many keys as there are. Each takes up a character, so the
length of the text is enough fuel. -/
def behindKeysFrom (mark : List Char) (gap : Bool) :
    (fuel : Nat) → List Char → List Char
  | 0, s => s
  | fuel + 1, s =>
    match behindKey? mark gap s with
    | some rest => behindKeysFrom mark gap fuel rest
    | none => s

def behindKeys (mark : List Char) (gap : Bool) (s : List Char) : List Char :=
  behindKeysFrom mark gap s.length s

def behindAllKeys (s : List Char) : List Char :=
  behindKeys [':', ':'] false (behindKeys [':'] false s)

/-- The text behind the opening brace and the short name, whose first character
may be any but the low line, a colon or `stop`. -/
def behindStart? (stop : Char) : List Char → Option (List Char)
  | '{' :: first :: rest =>
    if first == '_' || first == ':' || first == stop then none
    else some (rest.dropWhile Unicode.isWord)
  | _ => none

/-- A character that may stand between the separator and the end of a piped
token. -/
def isParamChar (c : Char) : Bool :=
  c != '{' && c != '^' && c != '}'

def behindPiped? (s : List Char) : Option (List Char) := do
  let rest ← behindStart? '|' s
  let params ← behind? ['|'] (trimLeft (behindAllKeys rest))
  if (params.takeWhile isParamChar).isEmpty then none
  else behind? ['}'] (params.dropWhile isParamChar)

def behindMethod? (s : List Char) : Option (List Char) := do
  let rest ← behindStart? '.' s
  let rest ← behindKey? ['.'] false rest
  behind? ['}'] (behindAllKeys rest)

def behindOneOrTwo? (c : Char) (s : List Char) : Option (List Char) :=
  (behind? [c] s).map fun rest => (behind? [c] rest).getD rest

/-- The text behind a data token. It may be written with a percent sign, with
doubled braces, and with blanks around its parts. -/
def behindData? (s : List Char) : Option (List Char) := do
  let rest ← behindOneOrTwo? '{' ((behind? ['%'] s).getD s)
  let rest ← behindWord? (trimLeft rest)
  let rest := behindKeys [':'] true (trimLeft rest)
  let rest := behindKeys [':', ':'] true (trimLeft rest)
  behindOneOrTwo? '}' (trimLeft rest)

def extent? (behind? : List Char → Option (List Char)) (s : List Char) :
    Option Nat :=
  (behind? s).map fun rest => s.length - rest.length

end Label
end Phrasebook

import Phrasebook.Expr.Basic

/-!
# Lexemes of rule expressions

The text of a rule is cut into parentheses, words and quoted texts. A word is a
longest run of word characters, an at sign with such a run behind it, or a
longest run of operator characters. A quoted text needs its closing mark. Any
other character is skipped, so nothing in a rule is ever refused here.
-/

namespace Phrasebook

/-- A unit of the text of a rule. -/
inductive Lexeme where
  | opening
  | closing
  | word (chars : List Char)
  | quoted (mark : Char) (chars : List Char)
  deriving DecidableEq, Repr

def Text.byteLength : List Char → Nat
  | [] => 0
  | c :: s => c.utf8Size + byteLength s

namespace Lexeme

def isWordChar (c : Char) : Bool :=
  c.isAlphanum || c == '_'

def isOperatorChar (c : Char) : Bool :=
  ['+', '-', '!', '|', '=', '>', '<', '&', '*', '/', '%'].contains c

def isQuote (c : Char) : Bool :=
  c == '"' || c == '\x27'

/-- The stretch of the rule's text that a lexeme takes up. -/
def source : Lexeme → List Char
  | .opening => ['(']
  | .closing => [')']
  | .word cs => cs
  | .quoted mark cs => mark :: cs ++ [mark]

/-- The lexeme that begins with the character `c` before `rest`, if one does. -/
def begin? (c : Char) (rest : List Char) : Option Lexeme :=
  if c = '(' then some .opening
  else if c = ')' then some .closing
  else if isWordChar c then some (.word (c :: rest.takeWhile isWordChar))
  else if c = '@' then
    match rest.takeWhile isWordChar with
    | [] => none
    | name => some (.word ('@' :: name))
  else if isOperatorChar c then
    some (.word (c :: rest.takeWhile isOperatorChar))
  else if isQuote c && rest.contains c then
    some (.quoted c (rest.takeWhile (· != c)))
  else none

/-- A lexeme with the number of bytes before it. -/
structure Located where
  lexeme : Lexeme
  offset : Nat
  deriving DecidableEq, Repr

/-- The lexemes from the given offset on, the first `skip` characters being
passed over. -/
def lexFrom (offset : Nat) : Nat → List Char → List Located
  | _, [] => []
  | skip + 1, c :: rest => lexFrom (offset + c.utf8Size) skip rest
  | 0, c :: rest =>
    match begin? c rest with
    | some l => ⟨l, offset⟩ :: lexFrom (offset + c.utf8Size)
        (l.source.length - 1) rest
    | none => lexFrom (offset + c.utf8Size) 0 rest

def lex (s : List Char) : List Located :=
  lexFrom 0 0 s

end Lexeme
end Phrasebook

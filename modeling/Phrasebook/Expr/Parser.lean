import Phrasebook.Expr.Lexeme

/-!
# Reading rule expressions

The lenient reader takes any text: it reads the first expression and leaves what
follows, closes what is still open at the end, and takes a text without lexemes
for the empty list.

The strict reader accepts a text that is exactly one complete expression and
otherwise says what is wrong and where. On what it accepts the two agree.
-/

namespace Phrasebook
namespace Expr

/-- A word as an expression: an integer if it is made of digits and fits, else a
symbol. -/
def ofWord (cs : List Char) : Expr :=
  if cs.all Char.isDigit then
    match Integer.read? cs with
    | some n => .int n
    | none => .symbol (String.ofList cs)
  else
    .symbol (String.ofList cs)

/-- The list read so far closed, and then every list around it. Items are kept
in reverse. -/
def closeAll (items : List Expr) : List (List Expr) → Expr
  | [] => .list items.reverse
  | outer :: rest => closeAll (.list items.reverse :: outer) rest

/-- The rest of a list whose items so far are `items`, inside the open lists
`outer`. -/
def readList (outer : List (List Expr)) (items : List Expr) : List Lexeme → Expr
  | [] => closeAll items outer
  | .opening :: rest => readList (items :: outer) [] rest
  | .closing :: rest =>
    match outer with
    | [] => .list items.reverse
    | around :: outer => readList outer (.list items.reverse :: around) rest
  | .word cs :: rest => readList outer (ofWord cs :: items) rest
  | .quoted _ cs :: rest =>
    readList outer (.str (String.ofList cs) :: items) rest

def ofLexemes : List Lexeme → Expr
  | [] => .list []
  | .opening :: rest => readList [] [] rest
  | .closing :: _ => .symbol ")"
  | .word cs :: _ => ofWord cs
  | .quoted _ cs :: _ => .str (String.ofList cs)

def parseChars (s : List Char) : Expr :=
  ofLexemes ((Lexeme.lex s).map (·.lexeme))

def parse (s : String) : Expr :=
  parseChars s.toList

/-! ## Strict reading -/

/-- A place in a text: the line, and the byte within the line, both counted from
one. -/
structure Position where
  line : Nat
  column : Nat
  deriving DecidableEq, Repr

/-- The place after the given text. -/
def Position.after (consumed : List Char) : Position where
  line := consumed.count '\n' + 1
  column := Text.byteLength (consumed.reverse.takeWhile (· != '\n')).reverse + 1

/-- What is wrong with a text that is not one complete expression. -/
inductive ParseError where
  | empty
  | unexpectedClose (position : Position)
  | unclosed (position : Position)
  | trailingInput (position : Position)
  deriving DecidableEq, Repr

def ParseError.position? : ParseError → Option Position
  | .empty => none
  | .unexpectedClose p | .unclosed p | .trailingInput p => some p

def ParseError.message : ParseError → String
  | .empty => "empty expression"
  | .unexpectedClose p => "unexpected ')' at " ++ place p
  | .unclosed p => "unclosed '(' opened at " ++ place p
  | .trailingInput p => "unexpected input after expression at " ++ place p
where
  /-- Line and column as written in messages. -/
  place (p : Position) : String :=
    toString p.line ++ ":" ++ toString p.column

/-- The lexemes after the first complete expression, when `depth` lists are
open; none when the text ends before. -/
def afterLists? : Nat → List Lexeme.Located → Option (List Lexeme.Located)
  | 0, rest => some rest
  | _ + 1, [] => none
  | depth + 1, l :: rest =>
    match l.lexeme with
    | .opening => afterLists? (depth + 2) rest
    | .closing => afterLists? depth rest
    | _ => afterLists? (depth + 1) rest

def beforeOffset : Nat → List Char → List Char
  | _, [] => []
  | offset, c :: rest =>
    if offset = 0 then [] else c :: beforeOffset (offset - c.utf8Size) rest

def fault? (s : List Char) : List Lexeme.Located → Option ParseError
  | [] => some .empty
  | first :: rest =>
    let place (l : Lexeme.Located) := Position.after (beforeOffset l.offset s)
    match first.lexeme with
    | .closing => some (.unexpectedClose (place first))
    | .opening =>
      match afterLists? 1 rest with
      | none => some (.unclosed (place first))
      | some [] => none
      | some (next :: _) => some (.trailingInput (place next))
    | _ =>
      match rest with
      | [] => none
      | next :: _ => some (.trailingInput (place next))

/-- The expression that a text is, or what is wrong with the text. -/
def parse? (s : String) : Except ParseError Expr :=
  match fault? s.toList (Lexeme.lex s.toList) with
  | some error => .error error
  | none => .ok (parse s)

end Expr
end Phrasebook

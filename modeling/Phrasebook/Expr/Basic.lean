import Phrasebook.Number.Integer
import Phrasebook.Text.Search

/-!
# Rule expressions

A rule is an expression in prefix notation, such as `(= 1 (mod @n 10))`. An
expression is an integer, a quoted text, a symbol, or a list of expressions; the
head of a list names what is to be done with the rest.
-/

namespace Phrasebook

inductive Expr where
  | int (n : Int64)
  | str (s : String)
  | symbol (name : String)
  | list (items : List Expr)
  deriving Inhabited

namespace Expr

mutual

def decEq : (a b : Expr) → Decidable (a = b)
  | .int a, .int b => decidable_of_iff (a = b) (by simp)
  | .str a, .str b => decidable_of_iff (a = b) (by simp)
  | .symbol a, .symbol b => decidable_of_iff (a = b) (by simp)
  | .list a, .list b =>
    match decEqAll a b with
    | isTrue h => isTrue (by rw [h])
    | isFalse h => isFalse (by simpa using h)
  | .int _, .str _ | .int _, .symbol _ | .int _, .list _ => isFalse (by simp)
  | .str _, .int _ | .str _, .symbol _ | .str _, .list _ => isFalse (by simp)
  | .symbol _, .int _ | .symbol _, .str _ | .symbol _, .list _ =>
    isFalse (by simp)
  | .list _, .int _ | .list _, .str _ | .list _, .symbol _ => isFalse (by simp)

def decEqAll : (as bs : List Expr) → Decidable (as = bs)
  | [], [] => isTrue rfl
  | [], _ :: _ => isFalse (by simp)
  | _ :: _, [] => isFalse (by simp)
  | a :: as, b :: bs =>
    match decEq a b, decEqAll as bs with
    | isTrue h, isTrue t => isTrue (by rw [h, t])
    | isFalse h, _ => isFalse (by simp [h])
    | _, isFalse t => isFalse (by simp [t])

end

instance : DecidableEq Expr := decEq

def headName? : Expr → Option String
  | .symbol name => some name
  | .str name => some name
  | _ => none

def operator? : Expr → Option String
  | .list (head :: _) => head.headName?
  | _ => none

def items : Expr → List Expr
  | .list es => es
  | _ => []

/-! ## Printing -/

/-- A quoted text, in single quotes if it contains a double one. -/
def quotedChars (s : List Char) : List Char :=
  let mark := if s.contains '"' then '\x27' else '"'
  mark :: s ++ [mark]

mutual

def chars : Expr → List Char
  | .int n => Integer.digits n
  | .str s => quotedChars s.toList
  | .symbol name => name.toList
  | .list es => '(' :: charsAll es ++ [')']

/-- The characters of several expressions with single spaces between them. -/
def charsAll : List Expr → List Char
  | [] => []
  | [e] => e.chars
  | e :: es => e.chars ++ ' ' :: charsAll es

end

def text (e : Expr) : String :=
  String.ofList e.chars

end Expr
end Phrasebook

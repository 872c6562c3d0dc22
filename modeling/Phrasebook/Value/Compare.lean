import Phrasebook.Value.Basic

/-!
# Comparing values

Two moments compare by time and two numbers by size; a text compares as a moment
beside a moment, and as a number beside a number. All else compares by how it
reads: equality by the text itself, order by its length.
-/

namespace Phrasebook

inductive Comparison where
  | equal
  | notEqual
  | less
  | lessEqual
  | greater
  | greaterEqual
  deriving DecidableEq, Repr

namespace Comparison

def holdsOf : Comparison → Ordering → Bool
  | .equal, o => o == .eq
  | .notEqual, o => o != .eq
  | .less, o => o == .lt
  | .lessEqual, o => o != .gt
  | .greater, o => o == .gt
  | .greaterEqual, o => o != .lt

/-- Operands without an order are unequal, and nothing else holds of them. -/
def holdsOf? (c : Comparison) : Option Ordering → Bool
  | some o => c.holdsOf o
  | none => c == .notEqual

end Comparison

namespace Number

def compareFloat? (a b : Float) : Option Ordering :=
  if a < b then some .lt
  else if b < a then some .gt
  else if a == b then some .eq
  else none

/-- The order of two numbers, exact between integers. -/
def compare? : Number → Number → Option Ordering
  | .int a, .int b => some (Ord.compare a.toInt b.toInt)
  | a, b => compareFloat? a.toFloat b.toFloat

end Number

namespace Value

/-- The moment that a value stands for beside `other`: a text counts only beside
a moment. -/
def momentBeside? (v other : Value) : Option Moment :=
  match v, other with
  | .date m, _ => some m
  | .str s, .date _ => (Moment.ofTime? s.toList).orElse fun _ =>
    Moment.ofDate? s.toList
  | _, _ => none

/-- How two values compare: by time or size, or else by their texts. -/
inductive Order where
  | ranked (order : Option Ordering)
  | texts (a b : String)

/-- The ground on which two values are compared. -/
def order (l r : Value) : Order :=
  match l.momentBeside? r, r.momentBeside? l with
  | some a, some b => .ranked (some (a.compare b))
  | _, _ =>
    match l.number?, r.number? with
    | some a, some b => .ranked (a.compare? b)
    | _, _ => .texts l.text r.text

def compare (c : Comparison) (l r : Value) : Bool :=
  match l.order r with
  | .ranked o => c.holdsOf? o
  | .texts a b =>
    match c with
    | .equal => a == b
    | .notEqual => a != b
    | _ => c.holdsOf (Ord.compare a.length b.length)

end Value
end Phrasebook

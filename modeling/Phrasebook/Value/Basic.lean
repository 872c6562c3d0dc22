import Phrasebook.Moment
import Phrasebook.Number.Rounding
import Phrasebook.Number.Shortest
import Phrasebook.Text.Search

/-!
# Values

What a rule is about and what it yields: nothing, a truth value, a number, a
text, a moment, or a list of values. Nothing and `false` count as false,
everything else as true.

A text may stand for a number: the views `int?` and `number?` read it, blanks
around it aside.
-/

namespace Phrasebook

/-- A value of the rule language. -/
inductive Value where
  | null
  | bool (b : Bool)
  | int (n : Int64)
  | float (x : Float)
  | str (s : String)
  | date (m : Moment)
  | list (items : List Value)
  deriving Inhabited

/-- The numeric view of a value. -/
inductive Number where
  | int (n : Int64)
  | float (x : Float)

namespace Number

def toFloat : Number → Float
  | .int n => n.toFloat
  | .float x => x

def toValue : Number → Value
  | .int n => .int n
  | .float x => .float x

end Number

namespace Value

def truthy : Value → Bool
  | .null => false
  | .bool b => b
  | _ => true

def isNull : Value → Bool
  | .null => true
  | _ => false

def int? : Value → Option Int64
  | .int n => some n
  | .str s => Integer.read? (Text.trimBoth s.toList)
  | _ => none

/-- A finite double that a text spells. -/
def finite? (s : List Char) : Option Float :=
  (Real.read? s).bind fun x => if x.isFinite then some x else none

/-- The number that a value is or spells; an integer where both readings are
possible. -/
def number? : Value → Option Number
  | .int n => some (.int n)
  | .float x => some (.float x)
  | .str s =>
    let t := Text.trimBoth s.toList
    match Integer.read? t with
    | some n => some (.int n)
    | none => (finite? t).map .float
  | _ => none

def float? (v : Value) : Option Float :=
  v.number?.map Number.toFloat

def str? : Value → Option String
  | .str s => some s
  | _ => none

def list? : Value → Option (List Value)
  | .list items => some items
  | _ => none

def date? : Value → Option Moment
  | .date m => some m
  | _ => none

/-! ## Text -/

mutual

/-- How a value reads in a label. Nothing reads as the empty text, and the items
of a list are set apart by commas. -/
def text : Value → String
  | .null => ""
  | .bool b => if b then "true" else "false"
  | .int n => Integer.text n
  | .float x => Real.text x
  | .str s => s
  | .date m => m.text
  | .list items => Text.join ", " (texts items)

def texts : List Value → List String
  | [] => []
  | v :: vs => v.text :: texts vs

end

theorem texts_eq_map (vs : List Value) : texts vs = vs.map text := by
  induction vs with
  | nil => rfl
  | cons v vs ih => simp [texts, ih]

/-- How a value is named in a message about it. -/
def description : Value → String
  | .null => "null"
  | .bool b => "boolean " ++ (Value.bool b).text
  | .int n => "integer " ++ Integer.text n
  | .float x => "float " ++ Real.text x
  | .str s => "string \"" ++ s ++ "\""
  | .date m => "date " ++ m.text
  | .list items => "list of " ++ toString items.length

/-! ## Sameness -/

mutual

/-- Whether two values are the same: equal in kind and content. Numbers of
different kinds differ, and doubles are compared as numbers, so that zero is the
same as minus zero and an undefined number is not even the same as itself. -/
def same : Value → Value → Bool
  | .null, .null => true
  | .bool a, .bool b => a == b
  | .int a, .int b => a == b
  | .float a, .float b => a == b
  | .str a, .str b => a == b
  | .date a, .date b => a == b
  | .list a, .list b => sameAll a b
  | _, _ => false

def sameAll : List Value → List Value → Bool
  | [], [] => true
  | a :: as, b :: bs => a.same b && sameAll as bs
  | _, _ => false

end

def ofLength (n : Nat) : Value :=
  .int (Int64.ofNat (min n Int64.maxValue.toNatClampNeg))

end Value
end Phrasebook

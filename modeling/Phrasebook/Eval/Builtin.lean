import Phrasebook.Eval.Error
import Phrasebook.Text.Casing
import Phrasebook.Value.Compare

/-!
# Built-in operations

A built-in is either a form, which decides itself which of its arguments are
evaluated, or a primitive, which is a function of evaluated arguments. This
module lists both and applies the primitives; forms belong to evaluation.

A primitive first checks the number of its arguments, and then each failure
names its cause.
-/

namespace Phrasebook

/-- The built-ins that receive their arguments unevaluated. -/
inductive Form where
  | quote
  | car
  | cdr
  | cond
  | and
  | or
  | true
  | false
  | assign
  | count
  | all
  | any
  deriving DecidableEq, Repr

inductive Arithmetic where
  | add
  | sub
  | mul
  | div
  deriving DecidableEq, Repr

/-- The built-ins that receive evaluated arguments. -/
inductive Primitive where
  | cons
  | eq
  | atom
  | not
  | arithmetic (op : Arithmetic)
  | mod
  | compare (op : Comparison)
  | member
  | within
  | matches
  | replace
  | append
  | prepend
  | date
  | time
  | today
  | now
  | upcase
  | downcase
  | capitalize
  deriving DecidableEq, Repr

inductive Builtin where
  | form (f : Form)
  | primitive (p : Primitive)
  deriving DecidableEq, Repr

def Builtin.isForm : Builtin → Bool
  | .form _ => true
  | .primitive _ => false

def Builtin.named : List (String × Builtin) :=
  [("quote", .form .quote),
    ("car", .form .car),
    ("cdr", .form .cdr),
    ("cons", .primitive .cons),
    ("eq", .primitive .eq),
    ("atom", .primitive .atom),
    ("cond", .form .cond),
    ("if", .form .cond),
    ("&&", .form .and),
    ("and", .form .and),
    ("||", .form .or),
    ("or", .form .or),
    ("!", .primitive .not),
    ("not", .primitive .not),
    ("true", .form .true),
    ("false", .form .false),
    ("let", .form .assign),
    ("label", .form .assign),
    ("+", .primitive (.arithmetic .add)),
    ("-", .primitive (.arithmetic .sub)),
    ("*", .primitive (.arithmetic .mul)),
    ("/", .primitive (.arithmetic .div)),
    ("%", .primitive .mod),
    ("mod", .primitive .mod),
    ("=", .primitive (.compare .equal)),
    ("!=", .primitive (.compare .notEqual)),
    ("<", .primitive (.compare .less)),
    ("<=", .primitive (.compare .lessEqual)),
    (">", .primitive (.compare .greater)),
    (">=", .primitive (.compare .greaterEqual)),
    ("in", .primitive .member),
    ("within", .primitive .within),
    ("count", .form .count),
    ("all", .form .all),
    ("any", .form .any),
    ("match", .primitive .matches),
    ("replace", .primitive .replace),
    ("append", .primitive .append),
    ("prepend", .primitive .prepend),
    ("date", .primitive .date),
    ("time", .primitive .time),
    ("today", .primitive .today),
    ("now", .primitive .now),
    ("upcase", .primitive .upcase),
    ("downcase", .primitive .downcase),
    ("capitalize", .primitive .capitalize)]

namespace Arithmetic

/-- The result on integers, if it exists and fits. -/
def onInts? : Arithmetic → Int64 → Int64 → Option Int64
  | .add, a, b => Integer.add? a b
  | .sub, a, b => Integer.sub? a b
  | .mul, a, b => Integer.mul? a b
  | .div, a, b => Integer.div? a b

/-- The result on doubles; nothing is divided by zero. -/
def onFloats? : Arithmetic → Float → Float → Option Float
  | .add, a, b => some (a + b)
  | .sub, a, b => some (a - b)
  | .mul, a, b => some (a * b)
  | .div, a, b => if b == 0.0 then none else some (a / b)

/-- The result on numbers, on integers where both are. -/
def onNumbers? (op : Arithmetic) : Number → Number → Option Value
  | .int a, .int b => (op.onInts? a b).map .int
  | a, b => (op.onFloats? a.toFloat b.toFloat).map .float

/-- The result on values. Addition of two texts, or of anything that is not a
number, puts the texts together, as long as neither side is missing. -/
def apply (op : Arithmetic) (name : String) (l r : Value) :
    Except EvalError Value :=
  let joins := op == .add && !l.isNull && !r.isNull
  let bothTexts := l.str?.isSome && r.str?.isSome
  match l.number?, r.number? with
  | some a, some b =>
    if joins && bothTexts then .ok (.str (l.text ++ r.text))
    else
      match op.onNumbers? a b with
      | some v => .ok v
      | none => .error (.arithmetic name)
  | a, _ =>
    if joins then .ok (.str (l.text ++ r.text))
    else .error (.mismatch name (if a.isNone then l else r))

end Arithmetic

namespace Primitive

/-- The integer that a value is or spells; a double is never taken for one. -/
def integer? : Value → Option Int64
  | .float _ => none
  | v => v.int?

def remainder (name : String) (l r : Value) : Except EvalError Value :=
  match integer? l, integer? r with
  | some a, some b =>
    match Integer.rem? a b with
    | some n => .ok (.int n)
    | none => .error (.arithmetic name)
  | none, _ => .error (.mismatch name l)
  | some _, none => .error (.mismatch name r)

/-- Whether one entry of a list in text form covers the searched text: a range
of integers does so by value, any other entry by being the same text. -/
def covers (search entry : List Char) : Bool :=
  match Text.cut? ['.', '.'] entry with
  | some (lo, hi) =>
    match Integer.read? (Text.trimBoth lo), Integer.read? (Text.trimBoth hi),
      Integer.read? search with
    | some lo, some hi, some n => lo ≤ n && n ≤ hi
    | _, _, _ => false
  | none => entry == search

/-- Whether a text is covered by an entry of a list with commas, blanks around
either aside. -/
def isListed (values search : List Char) : Bool :=
  (Text.splitChars [','] values).any fun entry =>
    covers (Text.trimBoth search) (Text.trimBoth entry)

/-- Whether a number lies between the two ends of a range, if all three are
numbers. -/
def isWithin? (range : List Char) (search : Value) : Option Bool := do
  let (lo, hi) ← Text.cut? ['.', '.'] range
  let lo ← Real.read? (Text.trimBoth lo)
  let hi ← Real.read? (Text.trimBoth hi)
  let n ← search.float?
  pure (lo ≤ n && n ≤ hi)

def regex (literal : String) : Except EvalError Regex.Program :=
  (Regex.ofLiteral literal).mapError .invalidRegex

def moment (form : DateForm) (text : String) : Except EvalError Value :=
  let moment? :=
    match form with
    | .date => Moment.ofDate? text.toList
    | .time => Moment.ofTime? text.toList
  match moment? with
  | some m => .ok (.date m)
  | none => .error (.invalidDate form text)

def arity : Primitive → Nat
  | .cons | .eq | .arithmetic _ | .mod | .compare _ | .member | .within |
      .matches | .append
  | .prepend => 2
  | .replace => 3
  | .atom | .not | .date | .time | .upcase | .downcase | .capitalize => 1
  | .today | .now => 0

/-- The result of a primitive. `clock` is the moment at which it is asked for,
and `name` the name that the rule calls it by. -/
def apply (clock : Moment) (p : Primitive) (name : String) (args : List Value) :
    Except EvalError Value :=
  match p, args with
  | .cons, [head, .list items] => .ok (.list (head :: items))
  | .cons, [head, .null] => .ok (.list [head])
  | .cons, [_, other] => .error (.mismatch name other)
  | .eq, [l, r] => .ok (.bool (l.same r))
  | .atom, [v] => .ok (.bool v.list?.isNone)
  | .not, [v] => .ok (.bool (!v.truthy))
  | .arithmetic op, [l, r] => op.apply name l r
  | .mod, [l, r] => remainder name l r
  | .compare op, [l, r] => .ok (.bool (Value.compare op l r))
  | .member, [values, search] =>
    .ok (.bool (isListed values.text.toList search.text.toList))
  | .within, [range, search] =>
    match isWithin? range.text.toList search with
    | some b => .ok (.bool b)
    | none => .error (.mismatch name search)
  | .matches, [pattern, subject] => do
    let program ← regex pattern.text
    pure (.bool (program.matchesText subject.text))
  | .replace, [pattern, replacement, subject] => do
    let program ← regex pattern.text
    pure (.str (program.replaceAll subject.text replacement.text))
  | .append, [suffix, base] => .ok (.str (base.text ++ suffix.text))
  | .prepend, [start, base] => .ok (.str (start.text ++ base.text))
  | .date, [v] => moment .date v.text
  | .time, [v] => moment .time v.text
  | .today, [] => .ok (.date clock.midnight)
  | .now, [] => .ok (.date clock)
  | .upcase, [v] => .ok (.str (Text.upcase v.text))
  | .downcase, [v] => .ok (.str (Text.downcase v.text))
  | .capitalize, [v] => .ok (.str (Text.capitalize v.text))
  | p, args => .error (.argumentCount name p.arity args.length)

end Primitive
end Phrasebook

import Mathlib
import Phrasebook.Expr.Basic
import Phrasebook.Value.Compare

/-!
# Plural conditions

The conditions of plural rules are built from the count `@n`, unsigned numbers
and remainders, by comparisons, by lists of numbers and ranges, and by the
connectives. This module has their syntax, how they are written as expressions,
and what they mean over the integers. The meaning is stated without the
evaluator. Numbers have no sign in a rule, as the rule language has no signed
literals; in a list in text form they may have one.
-/

namespace Phrasebook

def Comparison.holdsOfInts (op : Comparison) (a b : Int) : Bool :=
  match op with
  | .equal => decide (a = b)
  | .notEqual => decide (a ≠ b)
  | .less => decide (a < b)
  | .lessEqual => decide (a ≤ b)
  | .greater => decide (a > b)
  | .greaterEqual => decide (a ≥ b)

def Comparison.sign : Comparison → String
  | .equal => "="
  | .notEqual => "!="
  | .less => "<"
  | .lessEqual => "<="
  | .greater => ">"
  | .greaterEqual => ">="

namespace Plural

/-! ## Syntax -/

structure Literal where
  value : Int64
  nonneg : 0 ≤ value.toInt

structure Modulus where
  value : Int64
  one_le : 1 ≤ value.toInt

/-- Some operations have a sign and a word, and a rule may call them by
either. -/
inductive Spelling where
  | sign
  | word
  deriving DecidableEq, Repr

def Spelling.pick (s : Spelling) (sign word : String) : String :=
  match s with
  | .sign => sign
  | .word => word

/-- The numbers that are compared. -/
inductive Term where
  | literal (k : Literal)
  | count
  | remainder (spelling : Spelling) (t : Term) (m : Modulus)

/-- A number or an inclusive range in a list; spaces may stand around the dots
of a range. -/
inductive Entry where
  | single (v : Int64)
  | range (lo hi : Int64) (before after : Nat)

/-- An entry of a list with the spaces around it. -/
structure Item where
  entry : Entry
  before : Nat
  after : Nat

/-- Conditions on a count. -/
inductive Condition where
  | compare (op : Comparison) (l r : Term)
  | listed (items : List Item) (t : Term)
  | all (spelling : Spelling) (cs : List Condition)
  | any (spelling : Spelling) (cs : List Condition)
  | negation (spelling : Spelling) (c : Condition)
  | truth
  | falsity

/-! ## Meaning -/

def Term.value (n : Int) : Term → Int
  | .literal k => k.value.toInt
  | .count => n
  | .remainder _ t m => (t.value n).tmod m.value.toInt

def Entry.covers (n : Int) : Entry → Bool
  | .single v => decide (n = v.toInt)
  | .range lo hi _ _ => decide (lo.toInt ≤ n ∧ n ≤ hi.toInt)

mutual

def Condition.holds (n : Int) : Condition → Bool
  | .compare op l r => op.holdsOfInts (l.value n) (r.value n)
  | .listed items t => items.any fun item => item.entry.covers (t.value n)
  | .all _ cs => (Condition.holdsEach n cs).all id
  | .any _ cs => (Condition.holdsEach n cs).any id
  | .negation _ c => !c.holds n
  | .truth => true
  | .falsity => false

def Condition.holdsEach (n : Int) : List Condition → List Bool
  | [] => []
  | c :: cs => c.holds n :: Condition.holdsEach n cs

end

/-! ## Writing -/

def spaces (k : Nat) : List Char :=
  List.replicate k ' '

def Entry.chars : Entry → List Char
  | .single v => Integer.digits v
  | .range lo hi before after =>
    Integer.digits lo ++ spaces before ++
      (['.', '.'] ++ (spaces after ++ Integer.digits hi))

def Item.chars (i : Item) : List Char :=
  spaces i.before ++ i.entry.chars ++ spaces i.after

def listChars (items : List Item) : List Char :=
  [','].intercalate (items.map Item.chars)

def Term.toExpr : Term → Expr
  | .literal k => .int k.value
  | .count => .symbol "@n"
  | .remainder spelling t m =>
    .list [.symbol (spelling.pick "%" "mod"), t.toExpr, .int m.value]

mutual

def Condition.toExpr : Condition → Expr
  | .compare op l r => .list [.symbol op.sign, l.toExpr, r.toExpr]
  | .listed items t =>
    .list [.symbol "in", .str (String.ofList (listChars items)), t.toExpr]
  | .all spelling cs =>
    .list (.symbol (spelling.pick "&&" "and") :: Condition.toExprs cs)
  | .any spelling cs =>
    .list (.symbol (spelling.pick "||" "or") :: Condition.toExprs cs)
  | .negation spelling c => .list [.symbol (spelling.pick "!" "not"), c.toExpr]
  | .truth => .list [.symbol "true"]
  | .falsity => .list [.symbol "false"]

def Condition.toExprs : List Condition → List Expr
  | [] => []
  | c :: cs => c.toExpr :: Condition.toExprs cs

end

def Condition.text (c : Condition) : String :=
  c.toExpr.text

namespace Condition

theorem toExprs_eq_map (cs : List Condition) : toExprs cs = cs.map toExpr := by
  induction cs with
  | nil => rfl
  | cons c cs ih => rw [toExprs, ih, List.map_cons]

/-- Induction over conditions: of a connective, all parts may be supposed to
have the property. -/
theorem induction {P : Condition → Prop}
    (compare : ∀ op l r, P (.compare op l r))
    (listed : ∀ items t, P (.listed items t))
    (all : ∀ spelling cs, (∀ c ∈ cs, P c) → P (.all spelling cs))
    (any : ∀ spelling cs, (∀ c ∈ cs, P c) → P (.any spelling cs))
    (negation : ∀ spelling c, P c → P (.negation spelling c)) (truth : P .truth)
    (falsity : P .falsity) (c : Condition) : P c :=
  @Condition.rec P
    (fun cs => ∀ c ∈ cs, P c) compare listed all any negation truth falsity
    (by simp) (fun _ _ hc hcs => List.forall_mem_cons.mpr ⟨hc, hcs⟩) c

end Condition

end Plural
end Phrasebook

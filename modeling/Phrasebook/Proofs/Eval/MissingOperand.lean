import Mathlib
import Phrasebook.Language.Context
import Phrasebook.Proofs.Eval.Assigned
import Phrasebook.Proofs.Eval.Yields

/-!
# Orderings with a missing operand

An operand of an ordering may be missing: its operation has failed, or it is a
variable for an attribute that the subject does not have. Nothing is neither a
moment nor a number, so the ordering falls back on the lengths of the texts, and
nothing reads as the empty text. A rule that asks for the missing operand to be
the greater one therefore never holds; one that asks for it to be the smaller
one does hold, as soon as the other operand has a text.
-/

namespace Phrasebook

namespace Value

theorem order_null_left (v : Value) : order .null v = .texts "" v.text := by
  cases v <;> rfl

theorem order_null_right (v : Value) : order v .null = .texts v.text "" := by
  have hnone : momentBeside? .null v = none := rfl
  unfold order
  rw [hnone]
  cases v.momentBeside? .null <;> cases v.number? <;> rfl

end Value

/-- The operations that order two values, under their names. -/
def Comparison.orderings : List (String × Comparison) :=
  [("<", .less), ("<=", .lessEqual), (">", .greater), (">=", .greaterEqual)]

/-- The condition of the rule is an ordering of the two expressions. -/
def Rule.Orders (r : Rule) (op : Comparison) (left right : Expr) : Prop :=
  ∃ head name, r.condition = .list [head, left, right] ∧
    head.headName? = some name ∧
    (name, op) ∈ Comparison.orderings

namespace Comparison

variable {op : Comparison} {name : String}

theorem find?_of_mem_orderings (h : (name, op) ∈ orderings) :
    Table.find? name Builtin.named = some (.primitive (.compare op)) := by
  simp only [orderings, List.mem_cons, Prod.mk.injEq, List.not_mem_nil,
    or_false] at h
  rcases h with ⟨rfl, rfl⟩ | ⟨rfl, rfl⟩ | ⟨rfl, rfl⟩ | ⟨rfl, rfl⟩ <;> rfl

theorem compare_null_left (h : (name, op) ∈ orderings) (v : Value) :
    Value.compare op .null v = op.holdsOf (Ord.compare 0 v.text.length) := by
  unfold Value.compare
  rw [Value.order_null_left]
  cases op with
  | equal | notEqual => simp [orderings] at h
  | _ => rfl

theorem compare_null_right (h : (name, op) ∈ orderings) (v : Value) :
    Value.compare op v .null = op.holdsOf (Ord.compare v.text.length 0) := by
  unfold Value.compare
  rw [Value.order_null_right]
  cases op with
  | equal | notEqual => simp [orderings] at h
  | _ => rfl

end Comparison

/-- A comparison compares the value of its left side with that of its right
side, which is evaluated second. -/
theorem Evaluator.value_evaluate_compare (clock : Moment) {head : Expr}
    (left right : Expr)
    {name : String} {op : Comparison} (hhead : head.headName? = some name)
    (hname : Table.find? name Builtin.named = some (.primitive (.compare op)))
    (b : Bindings) :
    ((standard clock).evaluate (.list [head, left, right])).value b =
      .bool (Value.compare op (((standard clock).evaluate left).value b)
        (((standard clock).evaluate right).value
          (((standard clock).evaluate left).after b))) := by
  have hop : (standard clock).operation? name =
      some (.builtin (.primitive (.compare op))) :=
    operation?_named hname
  have hcall : (standard clock).call head
      ((standard clock).operands [left, right]) =
      Operand.runAll ((standard clock).operands [left, right]) >>= fun values =>
        pure ((standard clock).apply name values) := by
    simp only [call, hhead, hop]
  have happly : ∀ l r, (standard clock).apply name [l, r] =
      .ok (.bool (Value.compare op l r)) := by
    intro l r
    simp only [apply, hop, Primitive.apply]
  rw [evaluate, hcall]
  simp only [operands, Operand.runAll, Eval.value_bind, Eval.after_bind,
    Eval.after_pure]
  exact congrArg (fun result => ((standard clock).settle _ result).value _)
    (happly _ _)

theorem Rule.holds_of_first? {ev : Evaluator} {b : Bindings} {rules : List Rule}
    {r : Rule} (h : (Rule.first? ev b rules).value = some r) :
    (r.holds ev b).value = true := by
  induction rules with
  | nil => simp [first?] at h
  | cons r' rules ih =>
      rw [first?, Logged.value_bind] at h
      cases hr : (r'.holds ev b).value with
      | true =>
          obtain rfl : r' = r := by simpa [hr] using h
          exact hr
      | false =>
          apply ih
          simpa [hr] using h

/-- A missing operand takes part in an ordering as the empty text. In particular
a rule that asks for the missing operand to be the greater one does not hold,
and is never the rule that is found. -/
theorem Rule.holds_of_missing_operand {r : Rule} {op : Comparison}
    {left right : Expr}
    (hr : r.Orders op left right) (clock : Moment) (b : Bindings) :
    let ev := Evaluator.standard clock
    let l := (ev.evaluate left).value b
    let v := (ev.evaluate right).value ((ev.evaluate left).after b)
    (l = .null → (r.holds ev b).value =
      op.holdsOf (Ord.compare 0 v.text.length)) ∧
      (v = .null → (r.holds ev b).value =
        op.holdsOf (Ord.compare l.text.length 0)) ∧
      (op = .greater ∧ l = .null ∨ op = .less ∧ v = .null →
        (r.holds ev b).value = false ∧
          ∀ c : Context, ∀ s, c.bindings s = b →
            (c.matchingRule? ev s).value ≠ some r) := by
  intro ev l v
  obtain ⟨head, name, hcondition, hhead, hname⟩ := hr
  have hholds : (r.holds ev b).value = Value.compare op l v := by
    have hvalue := Evaluator.value_evaluate_compare clock left right hhead
      (Comparison.find?_of_mem_orderings hname) b
    rw [← hcondition] at hvalue
    exact congrArg Value.truthy hvalue
  have hleft : l = .null →
      (r.holds ev b).value = op.holdsOf (Ord.compare 0 v.text.length) := by
    intro hl
    rw [hholds, hl, Comparison.compare_null_left hname]
  have hright : v = .null →
      (r.holds ev b).value = op.holdsOf (Ord.compare l.text.length 0) := by
    intro hv
    rw [hholds, hv, Comparison.compare_null_right hname]
  refine ⟨hleft, hright, ?_⟩
  intro hgreater
  have hfails : (r.holds ev b).value = false := by
    rcases hgreater with ⟨rfl, hl⟩ | ⟨rfl, hv⟩
    · rw [hleft hl]
      cases v.text.length <;> rfl
    · rw [hright hv]
      cases l.text.length <;> rfl
  refine ⟨hfails, ?_⟩
  rintro c s rfl hfound
  rw [Rule.holds_of_first? hfound] at hfails
  simp at hfails

/-! ## A subject without an age -/

def ageRule (keyword conditions : String) : Rule where
  keyword
  description := ""
  examples := ""
  conditions
  operations := none

/-- Ages from eighteen on, and below. -/
def ageContext : Context where
  keyword := "age"
  description := ""
  keys := []
  defaultKey := "other"
  tokenExpression := none
  variableNames := ["@age"]
  sources := ∅
  mapping := none
  rules := [ageRule "adult" "(> @age 17)", ageRule "minor" "(< @age 18)"]

/-- Whoever has no age is not found to be an adult. -/
theorem Rule.holds_of_missing_age :
    let ev := Evaluator.standard default
    let r := ageRule "adult" "(> @age 17)"
    r ∈ ageContext.rules ∧ r.Orders .greater (.symbol "@age") (.int 17) ∧
      (ev.evaluate (.symbol "@age")).value (ageContext.bindings (.map ∅)) =
        .null ∧
      (r.holds ev (ageContext.bindings (.map ∅))).value = false ∧
      (ageContext.matchingRule? ev (.map ∅)).value ≠ some r := by
  intro ev r
  have horders : r.Orders .greater (.symbol "@age") (.int 17) :=
    ⟨.symbol ">", ">", by decide +kernel, rfl, by decide⟩
  have hnull : (ev.evaluate (.symbol "@age")).value
      (ageContext.bindings (.map ∅)) = .null := rfl
  have hmissing :=
    Rule.holds_of_missing_operand horders default (ageContext.bindings (.map ∅))
  obtain ⟨hholds, hfound⟩ := hmissing.2.2 (.inl ⟨rfl, hnull⟩)
  exact ⟨List.mem_cons_self, horders, hnull, hholds,
    hfound ageContext (.map ∅) rfl⟩

/-- Whoever has no age is found to be a minor: the empty text is shorter than
`18`. -/
theorem Rule.minor_holds_of_missing_age :
    let ev := Evaluator.standard default
    let r := ageRule "minor" "(< @age 18)"
    r.Orders .less (.symbol "@age") (.int 18) ∧
      (ev.evaluate (.symbol "@age")).value (ageContext.bindings (.map ∅)) =
        .null ∧
      (r.holds ev (ageContext.bindings (.map ∅))).value = true ∧
      (ageContext.matchingRule? ev (.map ∅)).value = some r := by
  intro ev r
  exact ⟨⟨.symbol "<", "<", by decide +kernel, rfl, by decide⟩,
    rfl, by decide +kernel,
    by decide +kernel⟩

end Phrasebook

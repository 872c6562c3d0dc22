import Phrasebook.Language.Context
import Phrasebook.Proofs.Eval.Yields
import Phrasebook.Proofs.Number.Arithmetic
import Phrasebook.Proofs.Plural.Listing

/-!
# Plural conditions mean what they say

On the standard evaluator a plural condition evaluates to its meaning over the
integers, whatever the count. Remainders exist and are the truncated ones,
comparisons of integers are exact, and the search of a list, which works on
texts, agrees with equality and order of the numbers written there. Therefore
the rule that a context with such conditions finds is the first whose condition
is true of the count.
-/

namespace Phrasebook

/-! ## Comparing integers -/

theorem Comparison.holdsOf_compare (op : Comparison) (a b : Int) :
    op.holdsOf (Ord.compare a b) = op.holdsOfInts a b := by
  rcases lt_trichotomy a b with h | rfl | h
  · have hcompare := compare_lt_iff_lt.mpr h
    have hne := h.ne
    cases op <;> simp [holdsOf, holdsOfInts, hcompare, h, hne, h.le, h.not_gt]
  · cases op <;> simp [holdsOf, holdsOfInts]
  · have hcompare := compare_gt_iff_gt.mpr h
    have hne := h.ne'
    cases op <;> simp [holdsOf, holdsOfInts, hcompare, h, hne, h.le, h.not_gt]

theorem Value.compare_int (op : Comparison) (a b : Int64) :
    Value.compare op (.int a) (.int b) = op.holdsOfInts a.toInt b.toInt :=
  op.holdsOf_compare a.toInt b.toInt

/-! ## Trying rules -/

/-- The rules are tried in order, and none is passed over that holds. -/
theorem Rule.first?_eq_find? {ev : Evaluator} {b : Bindings} {rules : List Rule}
    {p : Rule → Bool} (h : ∀ r ∈ rules, r.holds ev b = pure (p r)) :
    Rule.first? ev b rules = pure (rules.find? p) := by
  induction rules with
  | nil => rfl
  | cons r rules ih =>
      obtain ⟨hr, hrules⟩ := List.forall_mem_cons.mp h
      rw [Rule.first?, hr, pure_bind, List.find?_cons]
      cases p r with
      | true => rfl
      | false => exact ih hrules

namespace Plural

open Evaluator (standard yields_primitive yields_form operation?_named)

/-! ## Evaluating terms and conditions -/

variable (clock : Moment) {n : Int64} {b : Bindings}

/-- A term yields an integer, and that integer is its meaning. -/
theorem Term.yields (t : Term) (hn : b.get? "@n" = some (.int n)) :
    ∃ v : Int64, v.toInt = t.value n.toInt ∧
      ((standard clock).evaluate t.toExpr).Yields b (.int v) := by
  induction t with
  | literal k => exact ⟨k.value, rfl, Evaluator.yields_int k.value⟩
  | count => exact ⟨n, rfl, Evaluator.yields_symbol hn⟩
  | remainder spelling t m ih =>
      obtain ⟨v, hv, hyields⟩ := ih
      obtain ⟨r, hr, hvalue⟩ := Integer.rem?_of_one_le v m.one_le
      have hname : (standard clock).operation? (spelling.pick "%" "mod") =
          some (.builtin (.primitive .mod)) :=
        operation?_named (by cases spelling <;> rfl)
      refine ⟨r, by rw [hvalue, hv]; rfl, ?_⟩
      refine yields_primitive hname
        (.cons hyields (.cons (Evaluator.yields_int m.value) .nil)) ?_
      simp only [Primitive.apply, Primitive.remainder, Primitive.integer?,
        Value.int?, hr]

private theorem yieldEach {cs : List Condition}
    (h : ∀ c ∈ cs,
      ((standard clock).evaluate c.toExpr).Yields b (.bool (c.holds n.toInt))) :
    Operand.YieldAll b ((standard clock).operands (Condition.toExprs cs))
      ((Condition.holdsEach n.toInt cs).map .bool) := by
  refine Evaluator.yieldAll_operands ?_
  induction cs with
  | nil => exact .nil
  | cons c cs ih =>
      obtain ⟨hc, hcs⟩ := List.forall_mem_cons.mp h
      exact .cons hc (ih hcs)

theorem Condition.yields (c : Condition) (hn : b.get? "@n" = some (.int n)) :
    ((standard clock).evaluate c.toExpr).Yields b
    (.bool (c.holds n.toInt)) := by
  induction c using Condition.induction with
  | compare op l r =>
      obtain ⟨lv, hl, hlyields⟩ := l.yields clock hn
      obtain ⟨rv, hr, hryields⟩ := r.yields clock hn
      have hname : (standard clock).operation? op.sign =
          some (.builtin (.primitive (.compare op))) :=
        operation?_named (by cases op <;> rfl)
      refine yields_primitive hname (.cons hlyields (.cons hryields .nil)) ?_
      rw [Primitive.apply, Value.compare_int, hl, hr, Condition.holds]
  | listed items t =>
      obtain ⟨v, hv, hyields⟩ := t.yields clock hn
      have hname : (standard clock).operation? "in" =
          some (.builtin (.primitive .member)) :=
        operation?_named rfl
      refine yields_primitive hname
        (.cons (Evaluator.yields_str _) (.cons hyields .nil)) ?_
      rw [Primitive.apply, Value.text, Value.text, Integer.text,
        String.toList_ofList, String.toList_ofList, isListed_listChars, hv,
        Condition.holds]
  | all spelling cs ih =>
      have hname : (standard clock).operation? (spelling.pick "&&" "and") =
          some (.builtin (.form .and)) :=
        operation?_named (by cases spelling <;> rfl)
      have hevery := (yieldEach clock ih).runEvery
      rw [List.all_map] at hevery
      exact yields_form hname (hevery.map _)
  | any spelling cs ih =>
      have hname : (standard clock).operation? (spelling.pick "||" "or") =
          some (.builtin (.form .or)) :=
        operation?_named (by cases spelling <;> rfl)
      have hsome := (yieldEach clock ih).runSome
      rw [List.any_map] at hsome
      exact yields_form hname (hsome.map _)
  | negation spelling c ih =>
      have hname : (standard clock).operation? (spelling.pick "!" "not") =
          some (.builtin (.primitive .not)) :=
        operation?_named (by cases spelling <;> rfl)
      exact yields_primitive hname (.cons ih .nil) rfl
  | truth =>
      have hname : (standard clock).operation? "true" =
          some (.builtin (.form .true)) :=
        operation?_named rfl
      exact yields_form hname (Eval.yields_pure _)
  | falsity =>
      have hname : (standard clock).operation? "false" =
          some (.builtin (.form .false)) :=
        operation?_named rfl
      exact yields_form hname (Eval.yields_pure _)

theorem Condition.runText (c : Condition) (hn : b.get? "@n" = some (.int n)) :
    (standard clock).runText c.text b = pure (.bool (c.holds n.toInt), b) := by
  rw [Evaluator.runText, c.parse_text]
  exact c.yields clock hn

/-! ## Finding a rule -/

theorem bindings_count {ctx : Context} (hnames : ctx.variableNames = ["@n"])
    (hsources : ctx.sources = ∅) (n : Int64) :
    (ctx.bindings (.value (.int n))).get? "@n" = some (.int n) := by
  have hvalue : ctx.variableValue (.value (.int n)) "@n" = .int n := by
    rw [Context.variableValue, hsources]
    rfl
  rw [Context.bindings, hnames, List.map_singleton, hvalue]
  rfl

theorem Condition.rule_holds {c : Condition} {r : Rule}
    (hr : r.conditions = c.text) (hn : b.get? "@n" = some (.int n)) :
    r.holds (standard clock) b = pure (c.holds n.toInt) := by
  have hrun : (standard clock).run r.condition b =
      pure (.bool (c.holds n.toInt), b) := by
    rw [Rule.condition, hr]
    exact c.runText clock hn
  rw [Rule.holds, hrun]
  rfl

/-- Plural conditions mean what they say. On the standard evaluator the text of
a condition evaluates to the meaning of the condition at the count, nothing is
noticed and no variable changes. So a context whose only variable is the count,
and whose rules have such conditions, the default rule aside, finds the first of
these rules whose condition is true of the count. -/
theorem runText_and_matchingRule? (clock : Moment) :
    (∀ (c : Condition) (n : Int64) (b : Bindings), b.get? "@n" = some (.int n) →
      (standard clock).runText c.text b = pure (.bool (c.holds n.toInt), b)) ∧
    ∀ (ctx : Context) (condition : Rule → Condition), ctx.variableNames =
      ["@n"] → ctx.sources = ∅ →
      (∀ r ∈ ctx.rules,
        r.keyword ≠ ctx.defaultKey → r.conditions = (condition r).text) →
      ∀ n : Int64, ctx.matchingRule? (standard clock) (.value (.int n)) =
        pure ((ctx.rules.filter fun r => r.keyword != ctx.defaultKey).find?
          fun r => (condition r).holds n.toInt) := by
  refine ⟨fun c n b hn => c.runText clock hn, ?_⟩
  intro ctx condition hnames hsources hrules n
  have hn := bindings_count hnames hsources n
  refine Rule.first?_eq_find? ?_
  intro r hr
  obtain ⟨hmem, hkeyword⟩ := List.mem_filter.mp hr
  exact Condition.rule_holds clock (hrules r hmem (by simpa using hkeyword)) hn

/-- The condition for the Russian category of one. -/
def russianOne : Condition :=
  .all .sign
    [.compare .equal (.literal ⟨1, by decide⟩)
      (.remainder .word .count ⟨10, by decide⟩),
      .compare .notEqual (.literal ⟨11, by decide⟩)
        (.remainder .word .count ⟨100, by decide⟩)]

def russianContext : Context :=
  ⟨"number", "", ["one", "other"], "other", none, ["@n"], ∅, none,
    [⟨"one", "", "", russianOne.text, none⟩, ⟨"other", "", "", "(true)", none⟩]⟩

theorem russianContext_twentyOne :
    russianOne.text = "(&& (= 1 (mod @n 10)) (!= 11 (mod @n 100)))" ∧
      (standard default).runText russianOne.text
        (Table.ofList [("@n", .int 21)]) =
        pure (.bool true, Table.ofList [("@n", .int 21)]) ∧
      russianContext.matchingRule? (standard default) (.value (.int 21)) =
        pure (some ⟨"one", "", "", russianOne.text, none⟩) := by
  have hrules : ∀ r ∈ russianContext.rules,
      r.keyword ≠ russianContext.defaultKey →
      r.conditions = russianOne.text := by
    simp [russianContext]
  refine ⟨by decide, ?_, ?_⟩
  · exact (runText_and_matchingRule? default).1 russianOne 21 _ rfl
  · exact (runText_and_matchingRule? default).2 russianContext
      (fun _ => russianOne) rfl rfl
      hrules 21

end Plural
end Phrasebook

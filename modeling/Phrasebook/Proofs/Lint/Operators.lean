import Mathlib
import Phrasebook.Language.Lint
import Phrasebook.Proofs.Eval.Notices
import Phrasebook.Proofs.Eval.Operations
import Phrasebook.Proofs.Expr.Names

/-!
# The unknown operators of a rule

The check of a rule collects the unknown heads of all its lists, except those
within a list that a form takes literally. It does so without values, while the
evaluator decides on the way which operands it evaluates and which list it takes
literally. The two agree for every evaluator that has no forms of a caller's own
and gives the names `count`, `all` and `any` to no other operation: an operator
that an evaluation reports as unknown is one that the check has collected.
-/

namespace Phrasebook

/-- The event reports no unknown operator but one of the given. -/
def Event.NamedIn (names : List String) (e : Event) : Prop :=
  ∀ name, e.unknownOperator? = some name → name ∈ names

namespace Evaluator

open Eval (Ensures Notices ensures_pure notices_lookup notices_tell)

/-! ## Evaluators with operations of a caller -/

/-- The evaluator comes from the standard one, or from the one without
operations, by removing operations and by adding operations on values, the
latter not under a name that takes a list literally. -/
inductive Adapted : Evaluator → Prop
  | standard (clock : Moment) : Adapted (standard clock)
  | bare (clock : Moment) : Adapted (bare clock)
  | remove {ev : Evaluator} (h : Adapted ev) (name : String) :
      Adapted (ev.remove name)
  | add {ev : Evaluator} (h : Adapted ev) {name : String}
      (hname : name ∉ ["count", "all", "any"])
      (run : List Value → Value) : Adapted (ev.add name (.applicative run))

/-- What the check of a rule relies on: there is no form of a caller's own, and
a name that takes a list literally has no operation but a form that does. -/
structure Lintable (ev : Evaluator) : Prop where
  builtinForms : ∀ name run, ev.operation? name ≠ some (.special run)
  literalForms :
    ∀ name op, Lint.takesList (some name) = true →
    ev.operation? name = some op →
    ∃ f, op = .builtin (.form f) ∧ (f = .count ∨ f = .all ∨ f = .any)

theorem takesList_iff {name : String} :
    Lint.takesList (some name) = true ↔ name ∈ ["count", "all", "any"] := by
  simp [Lint.takesList, or_assoc]

theorem ExtendedBy.lintable {ev : Evaluator}
    (h : ev.ExtendedBy fun name => name ∉ ["count", "all", "any"]) :
    ev.Lintable where
  builtinForms := h.noSpecial
  literalForms name op hname hop := by
    have hmem := takesList_iff.mp hname
    obtain ⟨b, rfl, hb⟩ := h.exists_builtin (not_not_intro hmem) hop
    have hcases : name = "count" ∨ name = "all" ∨ name = "any" := by
      simpa using hmem
    rcases hcases with rfl | rfl | rfl
    · exact ⟨.count, by
        simpa [Table.find?, Builtin.named] using hb.symm, by simp⟩
    · exact ⟨.all, by simpa [Table.find?, Builtin.named] using hb.symm, by simp⟩
    · exact ⟨.any, by simpa [Table.find?, Builtin.named] using hb.symm, by simp⟩

theorem Adapted.lintable {ev : Evaluator} (h : ev.Adapted) : ev.Lintable := by
  refine ExtendedBy.lintable ?_
  induction h with
  | standard clock => exact extendedBy_standard clock _
  | bare clock => exact extendedBy_bare clock _
  | remove _ name ih => exact ih.remove name
  | add _ hname run ih => exact ih.add hname run

/-! ## What an evaluation reports -/

variable {ev : Evaluator} {names : List String}

theorem mem_unknownHead {head : Expr} {name : String}
    (hname : head.headName? = some name)
    (hop : ev.operation? name = none) (es : List Expr) :
    name ∈ Lint.unknownHead ev (.list (head :: es)) := by
  have hknows : ev.knows name = false := by
    rw [knows, Table.contains, ← operation?, hop]
    rfl
  simp [Lint.unknownHead, Expr.operator?, hname, hknows]

/-- An operator is reported as unknown by a list only if it is the unknown head
of the list. -/
theorem ensures_call (hev : ev.Lintable) {P : Event → Prop} (head : Expr)
    (es : List Expr) {args : List Operand} (h : ∀ o ∈ args, o.run.Notices P) :
    (ev.call head args).Ensures P fun result => ∀ name,
      result = .error (.unknownOperator name) →
        name ∈ Lint.unknownHead ev (.list (head :: es)) := by
  have hknown : ∀ {x : Eval (Except EvalError Value)},
      x.Ensures P KnowsOperator →
      x.Ensures P fun result =>
        ∀ name, result = .error (.unknownOperator name) →
        name ∈ Lint.unknownHead ev (.list (head :: es)) :=
    fun hx => hx.mono fun result hresult name heq => absurd heq (hresult name)
  cases hname : head.headName? with
  | none =>
      simp only [call, hname]
      exact hknown (ensures_pure (by simp))
  | some name =>
      cases hop : ev.operation? name with
      | none =>
          simp only [call, hname, hop]
          refine ensures_pure fun unknown heq => ?_
          obtain rfl : name = unknown := by simpa using heq
          exact mem_unknownHead hname hop es
      | some op =>
          refine hknown ?_
          cases op with
          | special run => exact absurd hop (hev.builtinForms name run)
          | applicative run =>
              simp only [call, hname, hop]
              refine (Operand.notices_runAll h).bind fun values _ =>
                ensures_pure ?_
              simp [apply, hop]
          | builtin b =>
              cases b with
              | form f =>
                  simp only [call, hname, hop]
                  exact ensures_form f name h
              | primitive p =>
                  simp only [call, hname, hop]
                  refine (Operand.notices_runAll h).bind fun values _ =>
                    ensures_pure ?_
                  simpa [apply, hop]
                    using Primitive.knowsOperator_apply ev.clock p name values

/-- The check and the evaluator take the same lists literally. -/
theorem call_literal (hev : ev.Lintable) {head e : Expr}
    (hhead : Lint.takesList head.headName? = true)
    (he : ev.isLiteralList e = true) (x : Eval Value) (os : List Operand) :
    ev.call head (⟨e, x⟩ :: os) = ev.call head (⟨e, pure .null⟩ :: os) := by
  cases hname : head.headName? with
  | none => simp only [call, hname]
  | some name =>
      cases hop : ev.operation? name with
      | none => simp only [call, hname, hop]
      | some op =>
          obtain ⟨f, rfl, hf⟩ := hev.literalForms name op (hname ▸ hhead) hop
          simp only [call, hname, hop]
          exact form_literal hf he name x os

theorem notices_settle (e : Expr) {result : Except EvalError Value}
    (h : ∀ name, result = .error (.unknownOperator name) → name ∈ names) :
    (ev.settle e result).Notices (Event.NamedIn names) := by
  cases result with
  | ok v => exact ensures_pure trivial
  | error error =>
      refine (notices_tell ?_).bind fun _ _ => ensures_pure trivial
      intro name hname
      cases error <;> simp [Event.unknownOperator?] at hname
      exact h _ (hname ▸ rfl)

theorem unknownHead_subset_unknown (head : Expr) (args : List Expr) :
    Lint.unknownHead ev (.list (head :: args)) ⊆
      Lint.unknown ev (.list (head :: args)) := by
  intro name hname
  cases args <;> simp [Lint.unknown, hname]

/-- The operands of a list can be chosen so that one taken literally is not
evaluated. -/
theorem exists_operands (hev : ev.Lintable) {P : Event → Prop} {head : Expr}
    {args : List Expr} (hfirst : ∀ first, args.head? = some first →
      (Lint.takesList head.headName? && ev.isLiteralList first) = true ∨
        (ev.evaluate first).Notices P)
    (hrest : ∀ e ∈ args.tail, (ev.evaluate e).Notices P) :
    ∃ os, ev.call head (ev.operands args) = ev.call head os ∧
      ∀ o ∈ os, o.run.Notices P := by
  cases args with
  | nil => exact ⟨[], rfl, by simp⟩
  | cons first rest =>
      have hoperands : ∀ o ∈ ev.operands rest, o.run.Notices P := by
        intro o ho
        rw [operands_eq_map] at ho
        obtain ⟨e, he, rfl⟩ := List.mem_map.mp ho
        exact hrest e he
      rcases hfirst first rfl with hliteral | hevaluated
      · obtain ⟨hhead, hlist⟩ := Bool.and_eq_true_iff.mp hliteral
        refine ⟨⟨first, pure .null⟩ :: ev.operands rest,
          call_literal hev hhead hlist _ _, ?_⟩
        exact List.forall_mem_cons.mpr ⟨ensures_pure trivial, hoperands⟩
      · exact ⟨_, rfl, List.forall_mem_cons.mpr ⟨hevaluated, hoperands⟩⟩

/-- The one expression can stand in a list that is evaluated where the other
stands in the list that is checked. -/
structure StandsFor (ev : Evaluator) (names : List String) (e e' : Expr) :
    Prop where
  literal : ev.isLiteralList e = ev.isLiteralList e'
  notices : Lint.unknown ev e' ⊆ names →
    (ev.evaluate e).Notices (Event.NamedIn names)

theorem notices_of_standsFor {args args' : List Expr}
    (hargs : List.Forall₂ (StandsFor ev names) args args')
    (h : Lint.unknownAll ev args' ⊆ names) :
    ∀ e ∈ args, (ev.evaluate e).Notices (Event.NamedIn names) := by
  induction hargs with
  | nil => simp
  | cons hfirst _ ih =>
      rw [Lint.unknownAll, List.append_subset] at h
      exact List.forall_mem_cons.mpr ⟨hfirst.notices h.1, ih h.2⟩

/-- What a list notices comes from its unknown head and from its operands,
unless the first of them is taken literally. -/
theorem notices_list (hev : ev.Lintable) (head : Expr) {args args' : List Expr}
    (hargs : List.Forall₂ (StandsFor ev names) args args')
    (h : Lint.unknown ev (.list (head :: args')) ⊆ names) :
    (ev.evaluate (.list (head :: args))).Notices (Event.NamedIn names) := by
  have hos : ∃ os, ev.call head (ev.operands args) = ev.call head os ∧
      ∀ o ∈ os, o.run.Notices (Event.NamedIn names) := by
    cases hargs with
    | nil => exact exists_operands hev (by simp) (by simp)
    | @cons first first' rest rest' hfirst hrest =>
        refine exists_operands hev ?_ ?_
        · -- The check and the evaluator test in the same way for a list
          -- taken literally.
          rintro _ ⟨⟩
          by_cases hliteral :
            (Lint.takesList head.headName? && ev.isLiteralList first) = true
          · exact .inl hliteral
          · refine .inr (hfirst.notices fun name hname => h ?_)
            rw [hfirst.literal] at hliteral
            simp [Lint.unknown, Expr.operator?, hliteral, hname]
        · exact notices_of_standsFor hrest fun name hname =>
            h (List.mem_append_right _ hname)
  obtain ⟨os, hcall, hos⟩ := hos
  rw [evaluate, hcall]
  refine (ensures_call hev head args' hos).bind fun result hresult => ?_
  exact notices_settle _ fun name hname =>
    h (unknownHead_subset_unknown head args' (hresult name hname))

theorem notices_evaluate (hev : ev.Lintable) (e : Expr)
    (h : Lint.unknown ev e ⊆ names) :
    (ev.evaluate e).Notices (Event.NamedIn names) := by
  induction e using Expr.induction with
  | int n => exact ensures_pure trivial
  | str s => exact ensures_pure trivial
  | symbol name => exact notices_lookup name
  | list es ih =>
      cases es with
      | nil => exact ensures_pure trivial
      | cons head args =>
          refine notices_list hev head
            (List.forall₂_same.mpr fun e he => ⟨rfl, ?_⟩) h
          exact ih e (List.mem_cons_of_mem head he)

end Evaluator

/-! ## What the check says -/

theorem mem_eraseRepsBy_loop {α : Type} [BEq α] [LawfulBEq α] {x : α} (a : α)
    (as acc : List α) :
    x ∈ List.eraseRepsBy.loop (· == ·) a as acc ↔ x ∈ acc ∨ x = a ∨ x ∈ as := by
  induction as generalizing a acc with
  | nil => simp [List.eraseRepsBy.loop, or_comm]
  | cons a' as ih =>
      rw [List.eraseRepsBy.loop]
      by_cases heq : a = a'
      · subst heq
        simp [ih]
      · have hne : (a == a') = false := by simpa using heq
        simp only [hne, ih, List.mem_cons]
        tauto

namespace Lint

theorem mem_inOrder {names : List String} {name : String} :
    name ∈ inOrder names ↔ name ∈ names := by
  have hsorted : name ∈ (names.mergeSort fun a b => !decide (b < a)) ↔
      name ∈ names :=
    List.mem_mergeSort
  rw [← hsorted, inOrder]
  cases names.mergeSort fun a b => !decide (b < a) with
  | nil => rfl
  | cons a as =>
      simpa [List.eraseReps, List.eraseRepsBy]
        using mem_eraseRepsBy_loop a as []

theorem operators_eq_nil {ev : Evaluator} {owner rule : String} {e : Expr} :
    operators ev owner rule e = [] ↔ unknown ev e = [] := by
  rw [operators, List.map_eq_nil_iff]
  simp only [List.eq_nil_iff_forall_not_mem, mem_inOrder]

end Lint

/-- Under all bindings, an operator that the evaluation of an expression finds
unknown is one that the check collects from it. An expression that the check has
nothing to say about is evaluated without an unknown operator. -/
theorem Evaluator.unknownOperator_collected {ev : Evaluator} (h : ev.Adapted)
    (e : Expr) (b : Bindings) :
    (∀ event ∈ (ev.run e b).log, ∀ name, event.unknownOperator? = some name →
      name ∈ Lint.unknown ev e) ∧
    ∀ owner rule, Lint.operators ev owner rule e = [] →
      ∀ event ∈ (ev.run e b).log, event.unknownOperator? = none := by
  have hcollected : (ev.run e b).Only (Event.NamedIn (Lint.unknown ev e)) :=
    (notices_evaluate h.lintable e (List.Subset.refl _) b).1
  refine ⟨hcollected, fun owner rule hclean event hevent => ?_⟩
  have hnone : Lint.unknown ev e = [] := Lint.operators_eq_nil.mp hclean
  refine Option.eq_none_iff_forall_ne_some.mpr fun name hname => ?_
  simpa [hnone] using hcollected event hevent name hname

/-- Without `upcase`, this is the only operator that is collected from
`(&& (any ("up" "down") "up") (upcase @n))`; the list that `any` takes is not a
call. -/
theorem Evaluator.unknownOperator_collected_upcase :
    let ev := ((standard default).remove "upcase").add "twice"
      (.applicative fun vs => .list (vs ++ vs))
    let listed :=
      Expr.list [.symbol "any", .list [.str "up", .str "down"], .str "up"]
    let e :=
      Expr.list [.symbol "&&", listed, .list [.symbol "upcase", .symbol "@n"]]
    (ev.run e Table.empty).log.map Event.unknownOperator? = [some "upcase"] ∧
      (∀ event ∈ (ev.run e Table.empty).log, ∀ name,
        event.unknownOperator? = some name →
        name ∈ ["upcase"]) ∧
      ∀ event ∈ (ev.run listed Table.empty).log, event.unknownOperator? =
        none := by
  intro ev listed e
  have hadapted : ev.Adapted :=
    .add (.remove (.standard default) "upcase") (by decide) _
  have hunknown : Lint.unknown ev e = ["upcase"] := by decide
  have hclean : Lint.operators ev "context" "other" listed = [] :=
    Lint.operators_eq_nil.mpr (by decide)
  have hcollected := (unknownOperator_collected hadapted e Table.empty).1
  rw [hunknown] at hcollected
  exact ⟨by decide +kernel, hcollected,
    (unknownOperator_collected hadapted listed Table.empty).2 "context" "other"
      hclean⟩

end Phrasebook

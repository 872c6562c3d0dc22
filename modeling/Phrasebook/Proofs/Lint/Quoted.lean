import Mathlib
import Phrasebook.Proofs.Eval.Yields
import Phrasebook.Proofs.Lint.Operators

/-!
# Quoted lists and the check of a rule

A quoted list is data: the evaluator takes it literally, and its head is no
operator. The check of a rule makes an exception for the lists that `count`,
`all` and `any` take literally, but none for quoted ones. It collects what would
be unknown in the quoted expression if that were evaluated, and no evaluation
ever meets it there.
-/

namespace Phrasebook

/-! ## Expressions with a hole -/

def Expr.quoted (e : Expr) : Expr :=
  .list [.symbol "quote", e]

/-- The expression is a list whose head names an operation. -/
structure Evaluator.IsCall (ev : Evaluator) (e : Expr) : Prop where
  headName?_eq : e.headName? = none
  isLiteralList_eq : ev.isLiteralList e = false

theorem Evaluator.isCall_quoted {ev : Evaluator}
    (hquote : ev.operation? "quote" = some (.builtin (.form .quote)))
    (e : Expr) :
    ev.IsCall e.quoted where
  headName?_eq := rfl
  isLiteralList_eq := by
    have hknows : ev.knows "quote" = true := congrArg Option.isSome hquote
    simp [Expr.quoted, isLiteralList, isHead, Expr.headName?, hknows]

/-- An expression with a hole in it. -/
inductive Holed where
  | hole
  | list (before : List Expr) (inner : Holed) (after : List Expr)

namespace Holed

def fill : Holed → Expr → Expr
  | .hole, e => e
  | .list before inner after, e => .list (before ++ inner.fill e :: after)

/-- Whether the expression is a list without an operation. What fills the hole
is to be a call of an operation. -/
def isLiteralList (ev : Evaluator) : Holed → Bool
  | .hole => false
  | .list [] _ _ => true
  | .list (head :: _) _ _ => !ev.isHead head

/-- Whether the check of a rule reads what fills the hole. It does, unless the
hole is somewhere in a list that is taken literally. -/
def isRead (ev : Evaluator) : Holed → Bool
  | .hole => true
  | .list [head] inner _ =>
    !(Lint.takesList head.headName? && inner.isLiteralList ev) &&
      inner.isRead ev
  | .list _ inner _ => inner.isRead ev

variable {ev : Evaluator} {e : Expr}

theorem headName?_fill (h : ev.IsCall e) (c : Holed) :
    (c.fill e).headName? = none := by
  cases c with
  | hole => exact h.headName?_eq
  | list before inner after => rfl

theorem isLiteralList_fill (h : ev.IsCall e) (c : Holed) :
    ev.isLiteralList (c.fill e) = c.isLiteralList ev := by
  cases c with
  | hole => exact h.isLiteralList_eq
  | list before inner after =>
      cases before with
      | nil =>
          have hhead : ev.isHead (inner.fill e) = false := by
            rw [Evaluator.isHead, headName?_fill h inner]
          simp [fill, Evaluator.isLiteralList, isLiteralList, hhead]
      | cons head before => rfl

end Holed

/-! ## What the check collects -/

namespace Lint

variable {ev : Evaluator} {name : String}

theorem unknownAll_append (es es' : List Expr) :
    unknownAll ev (es ++ es') = unknownAll ev es ++ unknownAll ev es' := by
  induction es with
  | nil => rfl
  | cons e es ih =>
      rw [List.cons_append, unknownAll, unknownAll, ih, List.append_assoc]

theorem mem_unknown_cons_cons {head first : Expr} {rest : List Expr} :
    name ∈ unknown ev (.list (head :: first :: rest)) ↔
      name ∈ unknown ev (.list [head]) ∨
        ((takesList head.headName? && ev.isLiteralList first) = false ∧
          name ∈ unknown ev first) ∨
        name ∈ unknownAll ev rest := by
  have hhead : unknownHead ev (.list (head :: first :: rest)) =
      unknownHead ev (.list [head]) := rfl
  have hoperator :
      Expr.operator? (.list (head :: first :: rest)) = head.headName? := rfl
  simp only [unknown, hhead, hoperator]
  cases takesList head.headName? && ev.isLiteralList first <;> simp [or_assoc]

/-- A list at the head of a list is no operator. -/
theorem unknown_singleton {head : Expr} (h : head.headName? = none) :
    unknown ev (.list [head]) = unknown ev head := by
  simp [unknown, unknownHead, Expr.operator?, h]

/-- Of two calls the one has additional unknown operators. In the place of the
other it adds these to what is collected, if its place is read. -/
theorem mem_unknown_fill {e e' : Expr} (h : ev.IsCall e) (h' : ev.IsCall e')
    {names : List String}
    (hmem : name ∈ unknown ev e ↔ name ∈ unknown ev e' ∨ name ∈ names)
    (c : Holed) :
    name ∈ unknown ev (c.fill e) ↔
      name ∈ unknown ev (c.fill e') ∨ c.isRead ev = true ∧ name ∈ names := by
  induction c with
  | hole => simpa [Holed.fill, Holed.isRead] using hmem
  | list before inner after ih =>
      match before with
      | [] =>
          have hhead : unknown ev (.list [inner.fill e]) =
              unknown ev (inner.fill e) :=
            unknown_singleton (Holed.headName?_fill h inner)
          have hhead' : unknown ev (.list [inner.fill e']) =
              unknown ev (inner.fill e') :=
            unknown_singleton (Holed.headName?_fill h' inner)
          cases after with
          | nil =>
              simp only [Holed.fill, Holed.isRead, List.nil_append, hhead,
                hhead', ih]
          | cons first rest =>
              simp only [Holed.fill, Holed.isRead, List.nil_append,
                mem_unknown_cons_cons, hhead, hhead', ih,
                Holed.headName?_fill h, Holed.headName?_fill h']
              grind
      | [head] =>
          simp only [Holed.fill, Holed.isRead, List.cons_append,
            List.nil_append, mem_unknown_cons_cons, Holed.isLiteralList_fill h,
            Holed.isLiteralList_fill h', ih, Bool.and_eq_true,
            Bool.not_eq_true']
          grind
      | head :: first :: rest =>
          simp only [Holed.fill, Holed.isRead, List.cons_append,
            mem_unknown_cons_cons, unknownAll_append, unknownAll,
            List.mem_append, ih]
          grind

end Lint

/-! ## What an evaluation meets -/

namespace Evaluator

open Eval (Notices Yields ensures_pure yields_pure)

variable {ev : Evaluator}

/-- The argument of a quotation is taken as it is, without a trace. -/
theorem yields_quoted
    (hquote : ev.operation? "quote" = some (.builtin (.form .quote))) (e : Expr)
    (b : Bindings) : (ev.evaluate e.quoted).Yields b e.quote :=
  yields_form hquote (yields_pure _)

theorem evaluate_of_headName?_eq_none {head : Expr} (h : head.headName? = none)
    (args : List Expr) :
    ev.evaluate (.list (head :: args)) =
      ev.settle (.list (head :: args))
        (.error (.invalidOperator head.text)) := by
  have hcall : ev.call head (ev.operands args) =
      pure (.error (.invalidOperator head.text)) := by
    simp only [call, h]
  rw [evaluate, hcall, pure_bind]

/-- What an evaluation notices with one call in the hole is known from the check
with another, provided that this is so of the calls. -/
theorem notices_fill (hev : ev.Lintable) {names : List String} {e e' : Expr}
    (h : ev.IsCall e) (h' : ev.IsCall e')
    (hnotices : (ev.evaluate e).Notices (Event.NamedIn names)) (c : Holed)
    (hsub : Lint.unknown ev (c.fill e') ⊆ names) :
    (ev.evaluate (c.fill e)).Notices (Event.NamedIn names) := by
  have hstands : ∀ es : List Expr, List.Forall₂ (ev.StandsFor names) es es :=
    fun es => List.forall₂_same.mpr fun e _ => ⟨rfl, notices_evaluate hev e⟩
  induction c with
  | hole => exact hnotices
  | list before inner after ih =>
      cases before with
      | nil =>
          have hhead := Holed.headName?_fill h inner
          rw [Holed.fill, List.nil_append, evaluate_of_headName?_eq_none hhead]
          exact notices_settle _ (by simp)
      | cons head before =>
          have hinner : ev.StandsFor names (inner.fill e) (inner.fill e') := by
            refine ⟨?_, ih⟩
            rw [Holed.isLiteralList_fill h, Holed.isLiteralList_fill h']
          have hargs :=
            List.rel_append (hstands before) (.cons hinner (hstands after))
          exact notices_list hev head hargs hsub

end Evaluator

/-- What the check collects from an expression with a quotation in it is what it
collects without the quoted expression and, unless the quotation is in a list
taken literally, what is unknown in the quoted expression. But the quoted
expression is not evaluated, and no evaluation notices more than the check
collects without it. -/
theorem Lint.mem_unknown_quoted {ev : Evaluator}
    (hquote : ev.operation? "quote" = some (.builtin (.form .quote)))
    (c : Holed) (e : Expr) :
    (∀ name, name ∈ unknown ev (c.fill e.quoted) ↔
      name ∈ unknown ev (c.fill (Expr.quoted (.list []))) ∨
        c.isRead ev = true ∧ name ∈ unknown ev e) ∧
    (∀ b, ev.run e.quoted b = pure (e.quote, b)) ∧
    (ev.Lintable → ∀ b, ∀ event ∈ (ev.run (c.fill e.quoted) b).log, ∀ name,
      event.unknownOperator? = some name →
        name ∈ unknown ev (c.fill (Expr.quoted (.list [])))) := by
  have hcall := Evaluator.isCall_quoted hquote
  have hunknown : ∀ e : Expr, unknown ev e.quoted = unknown ev e := by
    intro e
    have hknows : ev.knows "quote" = true := congrArg Option.isSome hquote
    simp [Expr.quoted, unknown, unknownHead, unknownAll, Expr.operator?,
      Expr.headName?, takesList, hknows]
  refine ⟨fun name => ?_, Evaluator.yields_quoted hquote e, fun hev b => ?_⟩
  · refine mem_unknown_fill (hcall _) (hcall _) ?_ c
    rw [hunknown, hunknown]
    simp [unknown]
  · have hnotices : (ev.evaluate e.quoted).Notices
        (Event.NamedIn (unknown ev (c.fill (Expr.quoted (.list []))))) := by
      intro b
      have hrun : (ev.evaluate e.quoted).run b = pure (e.quote, b) :=
        Evaluator.yields_quoted hquote e b
      rw [hrun]
      exact ⟨Logged.only_pure _, trivial⟩
    exact (Evaluator.notices_fill hev (hcall _) (hcall _) hnotices c
      (List.Subset.refl _) b).1

/-- From `(cons (frob) (cdr (quote (a b))))` the check collects `frob` and `a`,
of which an evaluation meets the former only. -/
theorem Lint.mem_unknown_quoted_cdr :
    let ev := Evaluator.standard default
    let c :=
      Holed.list [.symbol "cons", .list [.symbol "frob"]]
        (.list [.symbol "cdr"] .hole []) []
    let e := Expr.list [.symbol "a", .symbol "b"]
    "a" ∈ unknown ev (c.fill e.quoted) ∧
      ev.run e.quoted ∅ = pure (.list [.str "a", .str "b"], ∅) ∧
      (ev.run (c.fill e.quoted) ∅).log.map Event.unknownOperator? =
        [some "frob"] ∧
      ∀ b, ∀ event ∈ (ev.run (c.fill e.quoted) b).log, ∀ name,
        event.unknownOperator? = some name → name = "frob" := by
  intro ev c e
  have hquote : ev.operation? "quote" = some (.builtin (.form .quote)) := rfl
  obtain ⟨hcollected, hrun, hnotices⟩ := mem_unknown_quoted hquote c e
  have hwithout : unknown ev (c.fill (Expr.quoted (.list []))) = ["frob"] := by
    decide
  rw [hwithout] at hnotices
  have hmet := hnotices (Evaluator.Adapted.standard default).lintable
  refine ⟨(hcollected "a").mpr (.inr ⟨by decide, by decide⟩),
    hrun ∅, by decide +kernel, ?_⟩
  intro b event hevent name hname
  exact List.mem_singleton.mp (hmet b event hevent name hname)

/-- The check reports `a` as an unknown operator of `(car (quote (a b)))`, but
none of `(car (quote ()))`, although the former is evaluated without a
failure. -/
theorem Lint.quoted_head_collected :
    let ev := Evaluator.standard default
    let c := Holed.list [.symbol "car"] .hole []
    let x := Expr.list [.symbol "a", .symbol "b"]
    let y := Expr.list []
    ev.operation? "quote" = some (.builtin (.form .quote)) ∧
      Expr.parse "(car (quote (a b)))" = c.fill x.quoted ∧
      unknown ev (c.fill x.quoted) = ["a"] ∧ unknown ev (c.fill y.quoted) = [] ∧
      (ev.run (c.fill x.quoted) ∅).value.1.text = "a" ∧
      (ev.run (c.fill x.quoted) ∅).log.map Event.line = [] := by
  intro ev c x y
  exact ⟨rfl, by decide +kernel, by decide, by decide, by decide +kernel, by
    decide +kernel⟩

end Phrasebook

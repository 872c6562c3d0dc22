import Mathlib
import Phrasebook.Proofs.Eval.Assigned
import Phrasebook.Proofs.Eval.Operations
import Phrasebook.Proofs.Expr.Names

/-!
# What an evaluation calls

An evaluator is asked for an operation under the names that head a list in the
expression, and under no others: to call it, or to find out whether a list is to
be taken literally. So two evaluators with the same entries under these names
are as good as each other. They yield the same value and leave the same
bindings. Their journals may differ, for what is suggested in place of an
unknown operator is taken from all names of the table.

The caller's own forms are left out. They are functions of the operands they
receive, journal included, and may tell two evaluators apart by it.
-/

namespace Phrasebook

variable {α β : Type}

namespace Eval

/-- From the same bindings both computations have the same value and leave the
same bindings. -/
def SameOutcome (x y : Eval α) : Prop :=
  ∀ b, (x.run b).value = (y.run b).value

variable {x y : Eval α}

theorem SameOutcome.refl (x : Eval α) : SameOutcome x x :=
  fun _ => rfl

theorem SameOutcome.bind {f g : α → Eval β} (hx : SameOutcome x y)
    (hf : ∀ a, SameOutcome (f a) (g a)) : SameOutcome (x >>= f) (y >>= g) := by
  intro b
  simp only [StateT.run_bind, Logged.value_bind]
  rw [hx b]
  exact hf _ _

theorem SameOutcome.map (hx : SameOutcome x y) (f : α → β) :
    SameOutcome (f <$> x) (f <$> y) := by
  rw [map_eq_pure_bind, map_eq_pure_bind]
  exact hx.bind fun a => .refl _

end Eval

open Eval (SameOutcome)

/-! ## Operands -/

/-- The operand is the same expression, evaluated with the same outcome. -/
def Operand.Same (o o' : Operand) : Prop :=
  o.expr = o'.expr ∧ SameOutcome o.run o'.run

namespace Operand

variable {os os' : List Operand}

theorem sameOutcome_runAll (h : List.Forall₂ Same os os') :
    SameOutcome (runAll os) (runAll os') := by
  induction h with
  | nil => exact .refl _
  | cons ho _ ih =>
      apply ho.2.bind
      intro v
      exact ih.bind fun vs => .refl _

theorem sameOutcome_runEvery (h : List.Forall₂ Same os os') :
    SameOutcome (runEvery os) (runEvery os') := by
  induction h with
  | nil => exact .refl _
  | cons ho _ ih =>
      apply ho.2.bind
      intro v
      cases v.truthy with
      | false => exact .refl _
      | true => exact ih

theorem sameOutcome_runSome (h : List.Forall₂ Same os os') :
    SameOutcome (runSome os) (runSome os') := by
  induction h with
  | nil => exact .refl _
  | cons ho _ ih =>
      apply ho.2.bind
      intro v
      cases v.truthy with
      | false => exact ih
      | true => exact .refl _

end Operand

namespace Evaluator

/-- Under each of the names both evaluators have the same operation or none,
which is no form of a caller's own, and their clocks agree. -/
structure SameEntries (ev ev' : Evaluator) (names : List String) : Prop where
  clock : ev.clock = ev'.clock
  entry : ∀ name ∈ names, ev.operation? name = ev'.operation? name
  noSpecial : ∀ name ∈ names, ∀ run, ev.operation? name ≠ some (.special run)

variable {ev ev' : Evaluator} {names : List String} {args args' : List Operand}

theorem SameEntries.mono {names' : List String} (h : ev.SameEntries ev' names)
    (hsub : names' ⊆ names) : ev.SameEntries ev' names' where
  clock := h.clock
  entry := fun name hname => h.entry name (hsub hname)
  noSpecial := fun name hname => h.noSpecial name (hsub hname)

/-- To take a list literally is a matter of its own head. -/
theorem SameEntries.isLiteralList_eq {e : Expr}
    (h : ev.SameEntries ev' e.operators) :
    ev.isLiteralList e = ev'.isLiteralList e := by
  match e with
  | .int _ | .str _ | .symbol _ | .list [] => rfl
  | .list (head :: es) =>
      cases hname : head.headName? with
      | none => simp only [isLiteralList, isHead, hname]
      | some name =>
          have hentry : ev.operation? name = ev'.operation? name :=
            h.entry name (Expr.mem_operators_head hname)
          have hknows : ev.knows name = ev'.knows name :=
            congrArg Option.isSome hentry
          simp only [isLiteralList, isHead, hname, hknows]

/-! ## Forms -/

theorem sameOutcome_listOperand {o o' : Operand}
    (hent : ev.SameEntries ev' o.expr.operators)
    (h : o.Same o') : SameOutcome (ev.listOperand o) (ev'.listOperand o') := by
  obtain ⟨hexpr, hrun⟩ := h
  unfold listOperand
  rw [← hexpr, ← hent.isLiteralList_eq]
  split
  · exact .refl _
  · exact hrun

theorem sameOutcome_items {all : Bool} {o o' expected expected' : Operand}
    (hent : ev.SameEntries ev' o.expr.operators) (ho : o.Same o')
    (hexpected : expected.Same expected') :
    SameOutcome
      (do
        let list ← ev.listOperand o
        let expected ← expected.run
        pure
          (Except.ok (ε := EvalError)
            (Value.bool (itemsEqual all list expected))))
      (do
        let list ← ev'.listOperand o'
        let expected ← expected'.run
        pure
          (Except.ok (ε := EvalError)
            (Value.bool (itemsEqual all list expected)))) := by
  apply (sameOutcome_listOperand hent ho).bind
  intro list
  exact hexpected.2.bind fun expected => .refl _

theorem sameOutcome_form (f : Form) (name : String)
    (hent : ∀ o ∈ args, ev.SameEntries ev' o.expr.operators)
    (h : List.Forall₂ Operand.Same args args') :
    SameOutcome (ev.form f name args) (ev'.form f name args') := by
  have hlength := h.length_eq
  cases f with
  | and => exact (Operand.sameOutcome_runEvery h).map _
  | or => exact (Operand.sameOutcome_runSome h).map _
  | true | false => exact .refl _
  | quote =>
      match args, args', h with
      | [], [], _ | _ :: _ :: _, _ :: _ :: _, _ =>
          simp only [form, hlength]; exact .refl _
      | [o], [o'], .cons ho .nil => simp only [form, ho.1]; exact .refl _
  | car | cdr =>
      match args, args', h with
      | [], [], _ | _ :: _ :: _, _ :: _ :: _, _ =>
          simp only [form, hlength]; exact .refl _
      | [o], [o'], .cons ho .nil => exact ho.2.bind fun v => .refl _
  | cond =>
      match args, args', h with
      | [], [], _ | [_], [_], _ | _ :: _ :: _ :: _ :: _,
          _ :: _ :: _ :: _ :: _, _ =>
          simp only [form, hlength]; exact .refl _
      | [condition, yes], [condition', yes'],
          .cons hcondition (.cons hyes .nil) =>
          apply hcondition.2.bind
          intro v
          cases v.truthy with
          | false => exact .refl _
          | true => exact hyes.2.map _
      | [condition, yes, no], [condition', yes', no'],
          .cons hcondition (.cons hyes (.cons hno .nil)) =>
          apply hcondition.2.bind
          intro v
          cases v.truthy with
          | false => exact hno.2.map _
          | true => exact hyes.2.map _
  | assign =>
      match args, args', h with
      | [], [], _ | [_], [_], _ | _ :: _ :: _ :: _, _ :: _ :: _ :: _, _ =>
          simp only [form, hlength]; exact .refl _
      | [target, o], [target', o'], .cons htarget (.cons ho .nil) =>
          simp only [form, htarget.1]
          cases target'.expr.headName? with
          | none => exact .refl _
          | some assigned => exact ho.2.bind fun v => .refl _
  | count =>
      match args, args', h with
      | [], [], _ | _ :: _ :: _, _ :: _ :: _, _ =>
          simp only [form, hlength]; exact .refl _
      | [o], [o'], .cons ho .nil =>
          exact (sameOutcome_listOperand (hent o (by simp)) ho).bind fun v =>
            .refl _
  | all | any =>
      match args, args', h with
      | [], [], _ | [_], [_], _ | _ :: _ :: _ :: _, _ :: _ :: _ :: _, _ =>
          simp only [form, hlength]; exact .refl _
      | [o, expected], [o', expected'], .cons ho (.cons hexpected .nil) =>
          exact sameOutcome_items (hent o (by simp)) ho hexpected

/-! ## Evaluation -/

theorem sameOutcome_call {head : Expr}
    (hhead : ∀ name, head.headName? = some name → ev.SameEntries ev' [name])
    (hent : ∀ o ∈ args, ev.SameEntries ev' o.expr.operators)
    (h : List.Forall₂ Operand.Same args args') :
    SameOutcome (ev.call head args) (ev'.call head args') := by
  unfold call
  cases hname : head.headName? with
  | none => exact .refl _
  | some name =>
      have hsame := hhead name hname
      have hentry : ev.operation? name = ev'.operation? name :=
        hsame.entry name (by simp)
      have happly : ∀ values, ev.apply name values = ev'.apply name values := by
        intro values
        rw [apply, apply, ← hentry, hsame.clock]
      simp only [← hentry]
      cases hop : ev.operation? name with
      | none => exact .refl _
      | some op =>
          have hvalues : ∀ values,
              SameOutcome (pure (ev.apply name values))
                (pure (ev'.apply name values)) := by
            intro values
            rw [happly values]
            exact .refl _
          cases op with
          | special run => exact absurd hop (hsame.noSpecial name (by simp) run)
          | applicative run => exact (Operand.sameOutcome_runAll h).bind hvalues
          | builtin operation =>
              cases operation with
              | primitive p => exact (Operand.sameOutcome_runAll h).bind hvalues
              | form f => exact sameOutcome_form f name hent h

/-- A failure yields nothing in both evaluators, whatever names they suggest for
it. -/
theorem sameOutcome_settle (e : Expr) (result : Except EvalError Value) :
    SameOutcome (ev.settle e result) (ev'.settle e result) := by
  cases result with
  | ok v => exact .refl _
  | error error => exact fun _ => rfl

theorem sameOutcome_evaluate {e : Expr} (h : ev.SameEntries ev' e.operators) :
    SameOutcome (ev.evaluate e) (ev'.evaluate e) := by
  induction e using Expr.induction with
  | int n => simp only [evaluate]; exact .refl _
  | str s => simp only [evaluate]; exact .refl _
  | symbol name => simp only [evaluate]; exact .refl _
  | list es ih =>
      cases es with
      | nil => simp only [evaluate]; exact .refl _
      | cons head args =>
          have hsub : ∀ e ∈ args, ev.SameEntries ev' e.operators := fun e he =>
            h.mono fun name hname =>
              Expr.mem_operators_list (List.mem_cons_of_mem head he) hname
          have hargs : List.Forall₂ Operand.Same (ev.operands args)
              (ev'.operands args) := by
            rw [operands_eq_map, operands_eq_map, List.forall₂_map_left_iff,
              List.forall₂_map_right_iff, List.forall₂_same]
            intro e he
            exact ⟨rfl, ih e (List.mem_cons_of_mem head he) (hsub e he)⟩
          have hent : ∀ o ∈ ev.operands args,
              ev.SameEntries ev' o.expr.operators := by
            rw [operands_eq_map]
            intro o ho
            obtain ⟨e, he, rfl⟩ := List.mem_map.mp ho
            exact hsub e he
          have hhead : ∀ name, head.headName? = some name →
              ev.SameEntries ev' [name] :=
            fun name hname =>
              h.mono (by simpa using Expr.mem_operators_head hname)
          simp only [evaluate]
          apply (sameOutcome_call hhead hent hargs).bind
          intro result
          exact sameOutcome_settle _ result

theorem sameEntries_add {name : String} (op : Operation) (hname : name ∉ names)
    (hev : ∀ name ∈ names, ∀ run, ev.operation? name ≠ some (.special run)) :
    ev.SameEntries (ev.add name op) names where
  clock := rfl
  entry := by
    intro key hkey
    rw [operation?_add, if_neg]
    rintro rfl
    exact hname hkey
  noSpecial := hev

theorem sameEntries_remove {name : String} (hname : name ∉ names)
    (hev : ∀ name ∈ names, ∀ run, ev.operation? name ≠ some (.special run)) :
    ev.SameEntries (ev.remove name) names where
  clock := rfl
  entry := by
    intro key hkey
    rw [operation?_remove, if_neg]
    rintro rfl
    exact hname hkey
  noSpecial := hev

/-- The operations that an expression does not call cannot affect it: evaluators
with the same entries under the names that head its lists yield the same value
and leave the same bindings. So an operation that is added, replaced or removed
makes a difference only where its name heads a list. -/
theorem run_of_sameEntries {e : Expr}
    (hev : ∀ name ∈ e.operators, ∀ run,
      ev.operation? name ≠ some (.special run)) (b : Bindings) :
    (∀ ev' : Evaluator, ev'.clock = ev.clock →
      (∀ name ∈ e.operators, ev'.operation? name = ev.operation? name) →
      (ev'.run e b).value = (ev.run e b).value) ∧
    ∀ name, name ∉ e.operators →
      (∀ op, ((ev.add name op).run e b).value = (ev.run e b).value) ∧
        ((ev.remove name).run e b).value = (ev.run e b).value := by
  have hsame : ∀ {ev' : Evaluator}, ev.SameEntries ev' e.operators →
      (ev'.run e b).value = (ev.run e b).value :=
    fun h => (sameOutcome_evaluate h b).symm
  constructor
  · intro ev' hclock hentry
    exact hsame ⟨hclock.symm, fun name hname => (hentry name hname).symm, hev⟩
  · intro name hname
    exact ⟨fun op => hsame (sameEntries_add op hname hev),
      hsame (sameEntries_remove hname hev)⟩

/-- In `(if (any (a b) "b") (let x (frob 1)) 2)` the list `(a b)` is taken
literally and `frob` is not known. With an operation `frog` in the table the
journal suggests it, and nothing else changes, be `upcase` in the table or
not. -/
theorem run_of_sameEntries_frob :
    let ev := standard default
    let ev' := (ev.add "frog" (.applicative fun _ => .int 1)).remove "upcase"
    let e := Expr.list [.symbol "if",
      .list [.symbol "any", .list [.symbol "a", .symbol "b"], .str "b"],
      .list [.symbol "let", .symbol "x", .list [.symbol "frob", .int 1]],
      .int 2]
    let b : Bindings := ⟨[("x", .int 7)]⟩
    e.operators = ["if", "any", "a", "let", "frob"] ∧
      (ev'.run e b).value = (ev.run e b).value ∧
      ((ev.remove "b").run e b).value = (ev.run e b).value ∧
      ((ev.run e b).value.2.get? "x").any Value.isNull = true ∧
      (ev.run e b).log.map Event.line ≠ (ev'.run e b).log.map Event.line := by
  intro ev ev' e b
  have hoperators : e.operators = ["if", "any", "a", "let", "frob"] := by
    decide +kernel
  have hev : ∀ name ∈ e.operators, ∀ run, ev.operation? name ≠
      some (.special run) :=
    fun name _ => (extendedBy_standard default fun _ => True).noSpecial name
  have hentry : ∀ name ∈ e.operators, ev'.operation? name =
      ev.operation? name := by
    rw [hoperators]
    intro name hname
    rw [operation?_remove, operation?_add, if_neg, if_neg]
    · rintro rfl
      revert hname
      decide
    · rintro rfl
      revert hname
      decide
  obtain ⟨hsame, hother⟩ := run_of_sameEntries hev b
  refine ⟨hoperators, hsame ev' rfl hentry, (hother "b" ?_).2, ?_, ?_⟩
  · rw [hoperators]
    decide
  · decide +kernel
  · decide +kernel

end Evaluator
end Phrasebook

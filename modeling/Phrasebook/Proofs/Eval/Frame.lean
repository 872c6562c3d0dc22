import Mathlib
import Phrasebook.Proofs.Eval.Correspondence
import Phrasebook.Proofs.Lint.Operators

/-!
# What an evaluation leaves alone

An evaluation changes no variable but those to which it assigns, and removes
none. To which names it may assign can be read off the expression: they are the
targets of its lists headed by `let` or `label`, without those that are quoted
or stand in a list taken literally.
-/

namespace Phrasebook
namespace Evaluator

/-! ## Names assigned -/

/-- Names that are not in the list are bound as in the earlier bindings, and
names in the list are bound. -/
def KeepsBut (b₀ : Bindings) (assigned : List String) (b : Bindings) : Prop :=
  ∀ name, (name ∉ assigned → b.get? name = b₀.get? name) ∧
    (name ∈ assigned → b.contains name = true)

theorem KeepsBut.set {b₀ b : Bindings} {assigned : List String}
    (h : KeepsBut b₀ assigned b) (name : String) (v : Value) :
    KeepsBut b₀ (assigned ++ [name]) (b.set name v) := by
  intro key
  rw [Table.contains, Table.get?_set]
  by_cases heq : name = key
  · subst heq
    simp
  · have hkey := h key
    rw [Table.contains] at hkey
    simpa [heq, Ne.symm heq] using hkey

/-- The correspondence of an evaluation with itself that keeps the bindings it
does not assign. -/
def frame (ev : Evaluator)
    (hev : ∀ name run, ev.operation? name ≠ some (.special run))
    (b₀ : Bindings) : Correspondence ev :=
  .equal ev hev (fun assigned b c => b = c ∧ KeepsBut b₀ assigned b)
    (fun _ => True)
    (fun _ h => by rw [h.1]) fun name v h => ⟨by rw [h.1], h.2.set name v⟩

/-- An evaluation changes only what it assigns, and what it assigns is bound
afterwards. -/
theorem keepsBut_assigned {ev : Evaluator}
    (hev : ∀ name run, ev.operation? name ≠ some (.special run)) (e : Expr)
    (b : Bindings) :
    KeepsBut b (ev.assigned e b) (ev.run e b).value.2 := by
  have hrelates :=
    (frame ev hev b).relates_evaluate e (fun _ _ => trivial) fun _ _ => trivial
  have hstart : KeepsBut b [] b :=
    fun name => ⟨fun _ => rfl, fun h => by simp at h⟩
  obtain ⟨-, -, -, -, hafter⟩ := hrelates [] b b ⟨rfl, hstart⟩
  exact hafter

/-! ## Names that may be assigned -/

/-- The name that a list assigns which is headed by `let` or `label`. -/
def target? (head first : Expr) : Option String :=
  if head.headName? = some "let" ∨ head.headName? = some "label" then
    first.headName?
  else none

mutual

/-- The targets of the lists headed by `let` or `label` in an expression, apart
from the arguments of `quote` and from the lists that `count`, `all` and `any`
take literally. The head of a list is never evaluated, so nothing is assigned
there. -/
def targets (ev : Evaluator) : Expr → List String
  | .list (head :: first :: rest) =>
    if head.headName? = some "quote" then []
    else
      let literal := Lint.takesList head.headName? && ev.isLiteralList first
      (target? head first).toList ++
        ((if literal then [] else targets ev first) ++ targetsAll ev rest)
  | _ => []

def targetsAll (ev : Evaluator) : List Expr → List String
  | [] => []
  | e :: es => targets ev e ++ targetsAll ev es

end

theorem mem_targetsAll {ev : Evaluator} {name : String} {es : List Expr} :
    name ∈ targetsAll ev es ↔ ∃ e ∈ es, name ∈ targets ev e := by
  induction es with
  | nil => simp [targetsAll]
  | cons e es ih => simp [targetsAll, ih]

theorem mem_targets_list {ev : Evaluator} {head first : Expr} {rest : List Expr}
    {name : String} (hquote : head.headName? ≠ some "quote") :
    name ∈ targets ev (.list (head :: first :: rest)) ↔
      target? head first = some name ∨
      ((Lint.takesList head.headName? && ev.isLiteralList first) = false ∧
        name ∈ targets ev first) ∨ ∃ e ∈ rest, name ∈ targets ev e := by
  simp only [targets, if_neg hquote, List.mem_append, Option.mem_toList,
    mem_targetsAll]
  cases Lint.takesList head.headName? && ev.isLiteralList first <;> simp

end Evaluator

/-- Under all bindings the names assigned are among the given. -/
def Assignments.Within (xs : Assignments) (names : List String) : Prop :=
  ∀ b, xs b ⊆ names

namespace Assignments

variable {α : Type} {names : List String} {xs : Assignments}

theorem within_none : none.Within names := by
  intro b
  simp [none]

theorem Within.andThen {x : Eval α} {rest : α → Assignments}
    (h : xs.Within names) (hrest : ∀ a, (rest a).Within names) :
    (xs.andThen x rest).Within names := by
  intro b
  rw [Assignments.andThen]
  exact List.append_subset.mpr ⟨h b, hrest _ _⟩

theorem Within.mono {names' : List String} (h : xs.Within names)
    (hsub : names ⊆ names') :
    xs.Within names' :=
  fun b => List.Subset.trans (h b) hsub

theorem within_assignedWhile {goesOn : Value → Bool} {os : List Tracked}
    (h : ∀ o ∈ os, o.assigned.Within names) :
    (Tracked.assignedWhile goesOn os).Within names := by
  induction os with
  | nil => exact within_none
  | cons o os ih =>
      obtain ⟨ho, hos⟩ := List.forall_mem_cons.mp h
      refine Within.andThen ho fun v => ?_
      split
      · exact ih hos
      · exact within_none

end Assignments

namespace Evaluator

open Assignments (within_none within_assignedWhile)

variable {ev : Evaluator} {names : List String}

theorem within_listTracked {o : Tracked} (h : o.assigned.Within names) :
    (ev.listTracked o).assigned.Within names := by
  unfold listTracked
  dsimp only
  split
  · exact within_none
  · exact h

/-- A form assigns what its operands assign and, if it is an assignment, its
target. -/
theorem within_formAssigned {f : Form} {args : List Tracked}
    (h : ∀ o ∈ args, o.assigned.Within names)
    (htarget : f = .assign → ∀ target o, args = [target, o] →
      ∀ name, target.expr.headName? = some name → name ∈ names) :
    (ev.formAssigned f args).Within names := by
  unfold formAssigned
  split
  · exact h _ (by simp)
  · exact h _ (by simp)
  · refine (h _ (by simp)).andThen fun v => ?_
    split
    · exact h _ (by simp)
    · exact within_none
  · refine (h _ (by simp)).andThen fun v => ?_
    split <;> exact h _ (by simp)
  · exact within_assignedWhile h
  · exact within_assignedWhile h
  · rename_i target o
    split
    · rename_i name hname
      refine (h _ (by simp)).andThen fun v b => ?_
      simpa using htarget rfl target o rfl name hname
    · exact within_none
  · exact within_listTracked (h _ (by simp))
  · exact (within_listTracked (h _ (by simp))).andThen fun _ => h _ (by simp)
  · exact (within_listTracked (h _ (by simp))).andThen fun _ => h _ (by simp)
  · exact within_none

/-- The forms that take a list without an operation literally assign nothing in
it. -/
theorem formAssigned_literal {f : Form} (hf : f = .count ∨ f = .all ∨ f = .any)
    {o : Tracked} (ho : ev.isLiteralList o.expr = true) (os : List Tracked) :
    ev.formAssigned f (o :: os) = ev.formAssigned f
      ({ o with assigned := .none } :: os) := by
  have hlist : ev.listTracked o =
      ev.listTracked { o with assigned := .none } := by
    simp only [listTracked, ho, if_true]
  rcases hf with rfl | rfl | rfl
  · cases os with
    | nil => simp only [formAssigned, hlist]
    | cons o' os => rfl
  all_goals
    cases os with
    | nil => rfl
    | cons o' os =>
        cases os with
        | nil => simp only [formAssigned, hlist]
        | cons o₂ os => rfl

/-! ## Operations by their names -/

theorem eq_let_or_label {name : String}
    (h : Table.find? name Builtin.named = some (.form .assign)) :
    name = "let" ∨ name = "label" := by
  simpa [Builtin.named] using Table.mem_of_find? h

/-- The names of the built-ins that leave arguments unevaluated because of what
they are. -/
def literalNames : List String :=
  ["quote", "count", "all", "any"]

section Literal

variable (hev : ev.ExtendedBy fun name => name ∉ literalNames)

include hev

theorem callAssigned_quote {head : Expr} (hhead : head.headName? = some "quote")
    (args : List Tracked) : ev.callAssigned head args = .none := by
  cases hop : ev.operation? "quote" with
  | none => simp only [callAssigned, hhead, hop]
  | some op =>
      obtain ⟨b, rfl, hb⟩ := hev.exists_builtin (by simp [literalNames]) hop
      obtain rfl : .form .quote = b := by
        simpa [Table.find?, Builtin.named] using hb
      simp only [callAssigned, hhead, hop]
      rfl

theorem callAssigned_literal {head : Expr}
    (hhead : Lint.takesList head.headName? = true)
    {o : Tracked} (ho : ev.isLiteralList o.expr = true) (os : List Tracked) :
    ev.callAssigned head (o :: os) =
      ev.callAssigned head ({ o with assigned := .none } :: os) := by
  have hlintable : ev.Lintable :=
    (hev.mono fun name hname hmem =>
      hname (List.mem_cons_of_mem "quote" hmem)).lintable
  cases hname : head.headName? with
  | none => simp only [callAssigned, hname]
  | some name =>
      cases hop : ev.operation? name with
      | none => simp only [callAssigned, hname, hop]
      | some op =>
          obtain ⟨f, rfl, hf⟩ :=
            hlintable.literalForms name op (hname ▸ hhead) hop
          simp only [callAssigned, hname, hop]
          exact formAssigned_literal hf ho os

theorem within_callAssigned {head : Expr} {args : List Tracked}
    (h : ∀ o ∈ args, o.assigned.Within names)
    (htarget : ∀ target o, args = [target, o] →
      ∀ name, target? head target.expr = some name → name ∈ names) :
    (ev.callAssigned head args).Within names := by
  unfold callAssigned
  split
  · exact within_none
  · rename_i name hname
    split
    · exact within_none
    · rename_i f hop
      refine within_formAssigned h ?_
      rintro rfl target o hargs key hkey
      refine htarget target o hargs key ?_
      have hassigns := eq_let_or_label (hev.named hop)
      rw [target?, hname, if_pos (by simpa using hassigns), hkey]
    · exact within_none
    · exact within_assignedWhile h
    · exact within_assignedWhile h

/-- The names assigned in an evaluation are targets in the expression. -/
theorem within_assigned (e : Expr) : (ev.assigned e).Within (ev.targets e) := by
  induction e using Expr.induction with
  | int n => exact within_none
  | str s => exact within_none
  | symbol name => exact within_none
  | list es ih =>
      match es with
      | [] => exact within_none
      | [head] =>
          exact within_callAssigned hev (by simp [tracked]) (by simp [tracked])
      | head :: first :: rest =>
          by_cases hquote : head.headName? = some "quote"
          · rw [assigned, callAssigned_quote hev hquote]
            exact within_none
          have hrest : ∀ o ∈ ev.tracked rest,
              o.assigned.Within
                (ev.targets (.list (head :: first :: rest))) := by
            intro o ho
            rw [tracked_eq_map] at ho
            obtain ⟨e, he, rfl⟩ := List.mem_map.mp ho
            refine (ih e (by simp [he])).mono fun name hname => ?_
            exact (mem_targets_list hquote).mpr (.inr (.inr ⟨e, he, hname⟩))
          obtain ⟨o, hcall, ho, hexpr⟩ :
            ∃ o, ev.callAssigned head (ev.tracked (first :: rest)) =
              ev.callAssigned head (o :: ev.tracked rest) ∧
              o.assigned.Within (ev.targets (.list (head :: first :: rest))) ∧
              o.expr = first := by
            by_cases hliteral :
              (Lint.takesList head.headName? && ev.isLiteralList first) = true
            · obtain ⟨hhead, hfirst⟩ := Bool.and_eq_true_iff.mp hliteral
              exact ⟨_, callAssigned_literal hev hhead hfirst _,
                within_none, rfl⟩
            · refine ⟨_, rfl, ?_, rfl⟩
              refine (ih first (by simp)).mono fun name hname => ?_
              exact (mem_targets_list hquote).mpr
                (.inr (.inl ⟨by simpa using hliteral, hname⟩))
          rw [assigned, hcall]
          refine within_callAssigned hev
            (List.forall_mem_cons.mpr ⟨ho, hrest⟩) ?_
          intro target o' hargs name hname
          obtain rfl := (List.cons.inj hargs).1
          exact (mem_targets_list hquote).mpr (.inl (hexpr ▸ hname))

end Literal

/-- An evaluation leaves every variable bound that was bound, and changes none
that is not a target of an assignment in the expression. -/
theorem run_frame {ev : Evaluator}
    (hev : ev.ExtendedBy fun name => name ∉ literalNames) (e : Expr)
    (b : Bindings) :
    (∀ name, b.contains name = true → (ev.run e b).value.2.contains name =
      true) ∧
      ∀ name, name ∉ ev.targets e →
      (ev.run e b).value.2.get? name = b.get? name := by
  have hkeeps := keepsBut_assigned hev.noSpecial e b
  constructor
  · intro name hname
    by_cases hmem : name ∈ ev.assigned e b
    · exact (hkeeps name).2 hmem
    · rw [Table.contains, (hkeeps name).1 hmem]
      exact hname
  · intro name hname
    exact (hkeeps name).1 fun hmem => hname (within_assigned hev e b hmem)

/-- In `(- (let "x" 1) (count ("a" (let "y" 2))) (quote (let "z" 3)))` all
arguments are evaluated before their number is found to be wrong. The assignment
to `x` stands; the one in the literal list and the quoted one are not
executed. -/
theorem run_frame_midway :
    let ev :=
      (standard default).add "twice" (.applicative fun vs => .list (vs ++ vs))
    let e := Expr.list [.symbol "-", .list [.symbol "let", .str "x", .int 1],
      .list [.symbol "count",
        .list [.str "a", .list [.symbol "let", .str "y", .int 2]]],
      .list [.symbol "quote", .list [.symbol "let", .str "z", .int 3]]]
    let b : Bindings := ⟨[("x", .str "old"), ("y", .int 7)]⟩
    (ev.run e b).value.1.isNull = true ∧ ev.targets e = ["x"] ∧
      (ev.run e b).value.2.contains "x" = true ∧
      ((ev.run e b).value.2.get? "x").map Value.text = some "1" ∧
      (ev.run e b).value.2.get? "y" = some (.int 7) ∧
      (ev.run e b).value.2.get? "z" = none := by
  intro ev e b
  have hev : ev.ExtendedBy fun name => name ∉ literalNames :=
    (extendedBy_standard default _).add (by simp [literalNames]) _
  have htargets : ev.targets e = ["x"] := by decide +kernel
  obtain ⟨hbound, hframe⟩ := run_frame hev e b
  exact ⟨by decide +kernel, htargets, hbound "x" (by decide), by decide +kernel,
    hframe "y" (by simp [htargets]), hframe "z" (by simp [htargets])⟩

end Evaluator
end Phrasebook

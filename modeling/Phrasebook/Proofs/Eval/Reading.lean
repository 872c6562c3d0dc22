import Mathlib
import Phrasebook.Proofs.Eval.Correspondence
import Phrasebook.Proofs.Eval.Operations

/-!
# What an evaluation depends on

An evaluation reads a variable only where the expression has its symbol. So
bindings that agree on the symbols of an expression are as good as each other:
the value, the failures in the journal and the assignments that are executed are
the same, and the bindings still agree where they did before. They also agree on
every name that was assigned, whether they agreed on it before or not, for the
value assigned is the same.
-/

namespace Phrasebook

/-- Two bindings agree on the names on which two earlier ones agreed, and on the
names assigned since then. -/
def AgreeSince (b₀ c₀ : Bindings) (assigned : List String) (b c : Bindings) :
    Prop :=
  ∀ name, b₀.get? name = c₀.get? name ∨ name ∈ assigned →
    b.get? name = c.get? name

namespace AgreeSince

variable {b₀ c₀ b c : Bindings} {assigned : List String}

theorem start (b c : Bindings) : AgreeSince b c [] b c := by
  intro name h
  simpa using h

theorem set (h : AgreeSince b₀ c₀ assigned b c) (name : String) (v : Value) :
    AgreeSince b₀ c₀ (assigned ++ [name]) (b.set name v) (c.set name v) := by
  intro key hkey
  rw [Table.get?_set, Table.get?_set]
  by_cases heq : name = key
  · rw [if_pos heq, if_pos heq]
  · rw [if_neg heq, if_neg heq]
    refine h key (hkey.imp_right fun hmem => ?_)
    simpa [Ne.symm heq] using hmem

end AgreeSince

/-- The correspondence of evaluations that read only where the bindings
agree. -/
def Correspondence.agreement (ev : Evaluator)
    (hev : ∀ name run, ev.operation? name ≠ some (.special run))
    (b c : Bindings) :
    Correspondence ev :=
  .equal ev hev (AgreeSince b c) (fun name => b.get? name = c.get? name)
    (fun hname hagree => hagree _ (.inl hname)) fun name v hagree =>
      hagree.set name v

/-- Without forms of a caller's own, two evaluations of an expression under
bindings that agree on its symbols yield the same value, notice the same and
execute the same assignments; afterwards the bindings agree on all names on
which they agreed before and on all names that were assigned. -/
theorem Evaluator.run_agree {ev : Evaluator}
    (hev : ∀ name run, ev.operation? name ≠ some (.special run)) (e : Expr)
    {b c : Bindings} (h : ∀ name ∈ e.symbols, b.get? name = c.get? name) :
    (ev.run e b).value.1 = (ev.run e c).value.1 ∧
    (ev.run e b).log = (ev.run e c).log ∧
      ev.assigned e b = ev.assigned e c ∧
      ∀ name, b.get? name = c.get? name ∨ name ∈ ev.assigned e b →
        (ev.run e b).value.2.get? name = (ev.run e c).value.2.get? name := by
  have hrelates :=
    (Correspondence.agreement ev hev b c).relates_evaluate e h fun _ _ =>
      trivial
  obtain ⟨hvalue, hlog, hassigned, hafter⟩ :=
    hrelates [] b c (AgreeSince.start b c)
  exact ⟨hvalue, List.forall₂_eq_eq_eq ▸ hlog, hassigned, hafter⟩

/-- In `(&& (= @n 5) (let "form" (upcase @gender)) (frob 1) (let "late" 2))` the
operator `frob` is unknown, so that the second assignment is not executed. Under
bindings that differ on both targets the failure is reported alike, and `form`
is the same afterwards. -/
theorem Evaluator.run_agree_short_circuit :
    let ev := (standard default).add "half" (.applicative fun _ => .null)
    let e := Expr.list [.symbol "&&", .list [.symbol "=", .symbol "@n", .int 5],
      .list [.symbol "let", .str "form",
        .list [.symbol "upcase", .symbol "@gender"]],
      .list [.symbol "frob", .int 1],
      .list [.symbol "let", .str "late", .int 2]]
    let b : Bindings :=
      ⟨[("@n", .int 5), ("@gender", .str "f"), ("form", .str "m"),
        ("late", .int 1)]⟩
    let c : Bindings :=
      ⟨[("late", .int 3), ("@gender", .str "f"), ("@n", .int 5)]⟩
    (ev.run e b).log.length = 1 ∧ (ev.run e b).log = (ev.run e c).log ∧
      ev.assigned e b = ["form"] ∧
      ((ev.run e b).value.2.get? "form").map Value.text = some "F" ∧
      (ev.run e b).value.2.get? "form" = (ev.run e c).value.2.get? "form" := by
  intro ev e b c
  have hev : ∀ name run, ev.operation? name ≠ some (.special run) :=
    ((extendedBy_standard default fun _ => True).add trivial _).noSpecial
  have hsymbols : ∀ name ∈ e.symbols, b.get? name = c.get? name := by
    simp [e, b, c, Expr.symbols, Expr.symbolsAll, Table.get?, Table.find?]
  obtain ⟨-, hlog, -, hafter⟩ := run_agree hev e hsymbols
  have hassigned : ev.assigned e b = ["form"] := by decide +kernel
  exact ⟨by decide +kernel, hlog, hassigned, by decide +kernel,
    hafter "form" (.inr (by simp [hassigned]))⟩

end Phrasebook

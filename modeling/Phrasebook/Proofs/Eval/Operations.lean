import Mathlib
import Phrasebook.Proofs.Eval.Yields

/-!
# Evaluators with operations of a caller

A caller removes operations from an evaluator and adds others. Whatever is done
so, a built-in stands under no name but its own, and what a caller adds to work
on values stands under the names of the caller's choice. `ExtendedBy` says this
of an evaluator, with a property of those names.
-/

namespace Phrasebook
namespace Evaluator

/-- Apart from built-ins, each under its own name, there are only functions of
values, under names with the property. -/
def ExtendedBy (ev : Evaluator) (callers : String → Prop) : Prop :=
  ∀ name op, ev.operation? name = some op →
    (∃ b, op = .builtin b ∧ Table.find? name Builtin.named = some b) ∨
      ∃ run, op = .applicative run ∧ callers name

theorem operation?_add (ev : Evaluator) (name key : String) (op : Operation) :
    (ev.add name op).operation? key = if name = key then some op
      else ev.operation? key :=
  Table.get?_set ev.operations name key op

theorem operation?_remove (ev : Evaluator) (name key : String) :
    (ev.remove name).operation? key = if key = name then none
      else ev.operation? key :=
  Table.get?_erase ev.operations name key

theorem extendedBy_standard (clock : Moment) (callers : String → Prop) :
    (standard clock).ExtendedBy callers := by
  intro name op hop
  rw [operation?_standard] at hop
  obtain ⟨b, hb, rfl⟩ := Option.map_eq_some_iff.mp hop
  exact .inl ⟨b, rfl, hb⟩

theorem extendedBy_bare (clock : Moment) (callers : String → Prop) :
    (bare clock).ExtendedBy callers := by
  intro name op hop
  simp [operation?, bare] at hop

namespace ExtendedBy

variable {ev : Evaluator} {callers : String → Prop} {name : String}
    {b : Builtin}

theorem remove (h : ev.ExtendedBy callers) (name : String) :
    (ev.remove name).ExtendedBy callers := by
  intro key op hop
  rw [operation?_remove] at hop
  by_cases heq : key = name
  · simp [heq] at hop
  · rw [if_neg heq] at hop
    exact h key op hop

theorem add (h : ev.ExtendedBy callers) (hname : callers name)
    (run : List Value → Value) :
    (ev.add name (.applicative run)).ExtendedBy callers := by
  intro key op hop
  rw [operation?_add] at hop
  by_cases heq : name = key
  · subst heq
    rw [if_pos rfl] at hop
    exact .inr ⟨run, (Option.some.inj hop).symm, hname⟩
  · rw [if_neg heq] at hop
    exact h key op hop

theorem noSpecial (h : ev.ExtendedBy callers) (name : String)
    (run : List Operand → Eval Value) :
    ev.operation? name ≠ some (.special run) := by
  intro hop
  rcases h name _ hop with ⟨b, hb, -⟩ | ⟨run', hrun, -⟩
  · cases hb
  · cases hrun

theorem mono {callers' : String → Prop} (h : ev.ExtendedBy callers)
    (hcallers : ∀ name, callers name → callers' name) :
    ev.ExtendedBy callers' := by
  intro name op hop
  exact (h name op hop).imp_right fun ⟨run, hrun, hname⟩ =>
    ⟨run, hrun, hcallers name hname⟩

/-- Under a name that is not left to callers stands the built-in of that
name. -/
theorem exists_builtin (h : ev.ExtendedBy callers) (hname : ¬ callers name)
    {op : Operation} (hop : ev.operation? name = some op) :
    ∃ b, op = .builtin b ∧ Table.find? name Builtin.named = some b :=
  (h name op hop).resolve_right fun ⟨_, _, hcaller⟩ => hname hcaller

theorem named (h : ev.ExtendedBy callers)
    (hop : ev.operation? name = some (.builtin b)) :
    Table.find? name Builtin.named = some b := by
  rcases h name _ hop with ⟨b', hb, hname⟩ | ⟨run, hrun, -⟩
  · cases hb
    exact hname
  · cases hrun

theorem caller (h : ev.ExtendedBy callers) {run : List Value → Value}
    (hop : ev.operation? name = some (.applicative run)) : callers name := by
  rcases h name _ hop with ⟨b, hb, -⟩ | ⟨run', -, hname⟩
  · cases hb
  · exact hname

end ExtendedBy
end Evaluator
end Phrasebook

import Mathlib
import Phrasebook.Expr.Basic

/-!
# The names in an expression

An expression names variables by its symbols and operations by the heads of its
lists, at whatever depth they stand. A symbol at the head of a list is counted
among both.
-/

namespace Phrasebook
namespace Expr

/-- Induction over expressions: of a list, all items may be supposed to have the
property. -/
theorem induction {P : Expr → Prop} (int : ∀ n, P (.int n))
    (str : ∀ s, P (.str s)) (symbol : ∀ name, P (.symbol name))
    (list : ∀ es, (∀ e ∈ es, P e) → P (.list es)) (e : Expr) : P e :=
  @Expr.rec P (fun es => ∀ e ∈ es, P e) int str symbol list (by simp)
    (fun _ _ he hes => List.forall_mem_cons.mpr ⟨he, hes⟩) e

mutual

def symbols : Expr → List String
  | .int _ => []
  | .str _ => []
  | .symbol name => [name]
  | .list es => symbolsAll es

def symbolsAll : List Expr → List String
  | [] => []
  | e :: es => e.symbols ++ symbolsAll es

end

mutual

def operators : Expr → List String
  | .int _ => []
  | .str _ => []
  | .symbol _ => []
  | .list es => (operator? (.list es)).toList ++ operatorsAll es

def operatorsAll : List Expr → List String
  | [] => []
  | e :: es => e.operators ++ operatorsAll es

end

variable {name : String} {e : Expr} {es : List Expr}

theorem mem_symbolsAll : name ∈ symbolsAll es ↔ ∃ e ∈ es, name ∈ e.symbols := by
  induction es with
  | nil => simp [symbolsAll]
  | cons e es ih => simp [symbolsAll, ih]

theorem mem_operatorsAll :
    name ∈ operatorsAll es ↔ ∃ e ∈ es, name ∈ e.operators := by
  induction es with
  | nil => simp [operatorsAll]
  | cons e es ih => simp [operatorsAll, ih]

theorem mem_symbols_list (he : e ∈ es) (h : name ∈ e.symbols) :
    name ∈ (list es).symbols := by
  rw [symbols]
  exact mem_symbolsAll.mpr ⟨e, he, h⟩

theorem mem_operators_list (he : e ∈ es) (h : name ∈ e.operators) :
    name ∈ (list es).operators := by
  rw [operators]
  exact List.mem_append_right _ (mem_operatorsAll.mpr ⟨e, he, h⟩)

theorem mem_operators_head {head : Expr} (h : head.headName? = some name) :
    name ∈ (list (head :: es)).operators := by
  rw [operators]
  exact List.mem_append_left _ (by simp [operator?, h])

end Expr
end Phrasebook

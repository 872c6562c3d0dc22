import Mathlib
import Phrasebook.Language.Lint
import Phrasebook.Proofs.Expr.Names
import Phrasebook.Proofs.Suggestion.EditDistance
import Phrasebook.Proofs.Suggestion.Ranking
import Phrasebook.Proofs.Table.Entries

/-!
# The order in which operations are listed

An evaluator asks its table of operations for single entries, except that it
suggests names out of all that are listed. As suggestions do not depend on the
order of the names, evaluators that list the same operations in different orders
are the same to evaluate with, journal included, and the same to check a
language with.
-/

namespace Phrasebook
namespace Evaluator

/-- The evaluators have the same operations and list their names, in whatever
order. -/
structure Relisted (ev ev' : Evaluator) : Prop where
  clock_eq : ev.clock = ev'.clock
  operation?_eq : ∀ name, ev.operation? name = ev'.operation? name
  names_perm : ev.names.Perm ev'.names

/-- Entries under distinct names may be listed in any order. -/
theorem relisted_of_perm {ev ev' : Evaluator} (hclock : ev.clock = ev'.clock)
    (hnames : ev.names.Nodup)
    (hperm : ev.operations.entries.Perm ev'.operations.entries) :
    ev.Relisted ev' where
  clock_eq := hclock
  operation?_eq := Table.find?_perm hnames hperm
  names_perm := hperm.map Prod.fst

namespace Relisted

variable {ev ev' : Evaluator} (h : ev.Relisted ev')

include h

theorem knows_eq (name : String) : ev.knows name = ev'.knows name :=
  congrArg Option.isSome (h.operation?_eq name)

theorem isLiteralList_eq (e : Expr) :
    ev.isLiteralList e = ev'.isLiteralList e := by
  match e with
  | .int _ | .str _ | .symbol _ | .list [] => rfl
  | .list (head :: _) =>
      cases hname : head.headName? <;>
        simp only [isLiteralList, isHead, hname, h.knows_eq]

theorem suggest_eq (name : String) :
    Suggestion.suggest name ev.names = Suggestion.suggest name ev'.names :=
  Suggestion.suggest_perm h.names_perm

/-! ## Evaluation -/

theorem form_eq (f : Form) (name : String) (args : List Operand) :
    ev.form f name args = ev'.form f name args := by
  have hlist : ∀ o, ev.listOperand o = ev'.listOperand o := by
    intro o
    rw [listOperand, listOperand, h.isLiteralList_eq]
  unfold form
  simp only [hlist]

theorem call_eq (head : Expr) (args : List Operand) :
    ev.call head args = ev'.call head args := by
  have happly : ∀ name values, ev.apply name values =
      ev'.apply name values := by
    intro name values
    rw [apply, apply, h.operation?_eq, h.clock_eq]
  unfold call
  simp only [h.operation?_eq, h.form_eq, happly]

theorem settle_eq (e : Expr) (result : Except EvalError Value) :
    ev.settle e result = ev'.settle e result := by
  cases result with
  | ok v => rfl
  | error error =>
      have hsuggestions : ev.suggestions error = ev'.suggestions error := by
        cases error with
        | unknownOperator name => exact h.suggest_eq name
        | _ => rfl
      rw [settle, settle, hsuggestions]

theorem evaluate_eq (e : Expr) : ev.evaluate e = ev'.evaluate e := by
  induction e using Expr.induction with
  | int n => rfl
  | str s => rfl
  | symbol name => rfl
  | list es ih =>
      cases es with
      | nil => rfl
      | cons head args =>
          have hargs : ev.operands args = ev'.operands args := by
            rw [operands_eq_map, operands_eq_map]
            refine List.map_congr_left fun e he => ?_
            rw [ih e (List.mem_cons_of_mem head he)]
          simp only [evaluate, hargs, h.call_eq, h.settle_eq]

end Relisted
end Evaluator

/-! ## The check of a language -/

namespace Lint

open Evaluator (Relisted)

variable {ev ev' : Evaluator} (h : ev.Relisted ev')

include h

theorem unknownHead_relisted (e : Expr) :
    unknownHead ev e = unknownHead ev' e := by
  cases hname : e.operator? <;> simp only [unknownHead, hname, h.knows_eq]

theorem unknown_relisted (e : Expr) : unknown ev e = unknown ev' e := by
  induction e using Expr.induction with
  | int n => rfl
  | str s => rfl
  | symbol name => rfl
  | list es ih =>
      have hall : ∀ rest : List Expr, rest ⊆ es →
          unknownAll ev rest = unknownAll ev' rest := by
        intro rest hrest
        induction rest with
        | nil => rfl
        | cons e rest ihrest =>
            have ⟨he, hrest⟩ := List.cons_subset.mp hrest
            rw [unknownAll, unknownAll, ih e he, ihrest hrest]
      match es with
      | [] => rfl
      | [head] =>
          rw [unknown, unknown, unknownHead_relisted h,
            ih head List.mem_cons_self]
      | head :: first :: rest =>
          have hfirst := ih first (List.mem_cons_of_mem head List.mem_cons_self)
          have hrest := hall rest
            (List.subset_cons_of_subset head (List.subset_cons_self first rest))
          rw [unknown, unknown, unknownHead_relisted h,
            ih head List.mem_cons_self, hfirst, hrest, h.isLiteralList_eq]

theorem operators_relisted (owner rule : String) (e : Expr) :
    operators ev owner rule e = operators ev' owner rule e := by
  rw [operators, operators, unknown_relisted h]
  exact List.map_congr_left fun name _ => by rw [h.suggest_eq]

theorem rules_relisted (owner : String) (rs : List Rule) :
    rules ev owner rs = rules ev' owner rs := by
  have hsource : ∀ rule field text,
      source ev owner rule field text = source ev' owner rule field text := by
    intro rule field text
    unfold source
    simp only [operators_relisted h]
  unfold rules ruleSources
  simp only [hsource]

theorem language_relisted (l : Language) : language ev l = language ev' l := by
  have hcontext : context ev = context ev' := by
    funext c
    rw [context, context, rules_relisted h]
  have hcase : case ev = case ev' := by
    funext c
    rw [case, case, rules_relisted h]
  rw [language, language, hcontext, hcase]

end Lint

/-! ## Suggestions -/

namespace Suggestion

/-- Suggestions are the closest known names. The names within reach have one
ranking by distance and then by bytes, with the distance the least number of
edits, and its first three are suggested. So the names may be known in any
order, and neither the journal of an evaluation nor the check of a language
shows in which order the operations are listed. -/
theorem suggest_closest (name : String) (known : List String) :
    (∀ k : String,
      IsDistance name.toList k.toList (distance name.toList k.toList)) ∧
      (∃! ranked, IsRanking name known ranked) ∧
      (∀ ranked, IsRanking name known ranked →
        suggest name known = ranked.take 3) ∧
      (∀ known', known.Perm known' → suggest name known' = suggest name known) ∧
      ∀ ev ev' : Evaluator, ev.Relisted ev' →
        (∀ e b, ev'.run e b = ev.run e b) ∧
        ∀ l, Lint.language ev' l = Lint.language ev l := by
  refine ⟨fun k => isDistance_distance _ _, ?_, fun _ => IsRanking.suggest_eq,
    fun _ hperm => (suggest_perm hperm).symm, fun ev ev' h =>
      ⟨fun e b => ?_, fun l => ?_⟩⟩
  · exact ⟨_, isRanking_mergeSort name known,
      fun _ h => h.unique (isRanking_mergeSort name known)⟩
  · rw [Evaluator.run, Evaluator.run, h.evaluate_eq]
  · exact (Lint.language_relisted h l).symm

/-- Nine operations of the standard evaluator are one edit from `x`. The three
with the least bytes are suggested, be the operations listed forwards or
backwards. A name that is known twice is suggested twice. -/
theorem suggest_closest_letter :
    let ev := Evaluator.standard default
    let ev' : Evaluator :=
      { ev with operations := ⟨ev.operations.entries.reverse⟩ }
    let e := Expr.list [.symbol "x", .int 2, .int 3]
    let power : Case :=
      ⟨"power", "", "", "", .phrase, [⟨"square", "", "", "(x 2 3)", none⟩]⟩
    let l : Language := ⟨"en", "English", [], [power]⟩
    ev'.names ≠ ev.names ∧
      suggest "x" ev.names = ["!", "%", "*"] ∧
      suggest "x" ev'.names = suggest "x" ev.names ∧
      ev'.run e ∅ = ev.run e ∅ ∧
      (ev.run e ∅).log.map Event.message =
        ["rule '(x 2 3)' evaluated to null: " ++
          "unknown operator 'x' (did you mean !, %, *?)"] ∧
      Lint.language ev' l = Lint.language ev l ∧
      Lint.language ev l =
        [.unknownOperator "case 'power'" "square" "x" ["!", "%", "*"]] ∧
      suggest "mot" ["now", "not", "mod", "not", "let"] =
        ["mod", "not", "not"] := by
  intro ev ev' e power l
  have hrelisted : ev.Relisted ev' :=
    Evaluator.relisted_of_perm rfl (by decide) (List.reverse_perm _).symm
  have hletter :
      IsRanking "x" ev.names ["!", "%", "*", "+", "-", "/", "<", "=", ">"] :=
    ⟨by decide +kernel, by decide +kernel⟩
  have hmot : IsRanking "mot" ["now", "not", "mod", "not", "let"]
      ["mod", "not", "not"] :=
    ⟨by decide +kernel, by decide +kernel⟩
  obtain ⟨-, -, hranked, hknown, hlisted⟩ := suggest_closest "x" ev.names
  obtain ⟨hrun, hlanguage⟩ := hlisted ev ev' hrelisted
  have hsuggest : suggest "x" ev.names = ["!", "%", "*"] := hranked _ hletter
  have hlog : (ev.run e ∅).log =
      [.degraded e (.unknownOperator "x") (suggest "x" ev.names)] := rfl
  have hwarnings : Lint.language ev l =
      [.unknownOperator "case 'power'" "square" "x"
        (suggest "x" ev.names)] := by
    have hunknown : Lint.inOrder (Lint.unknown ev e) = ["x"] := by
      decide +kernel
    have hblank : Text.isBlankText "(x 2 3)" = false := by decide
    have hparse : Expr.parse? "(x 2 3)" = .ok e := by decide +kernel
    have hrule : Lint.ruleSources ev "case 'power'"
        ⟨"square", "", "", "(x 2 3)", none⟩ =
        [.unknownOperator "case 'power'" "square" "x"
          (suggest "x" ev.names)] := by
      simp [Lint.ruleSources, Lint.source, Lint.operators, hblank, hparse,
        hunknown]
    simp [Lint.language, Lint.case, Lint.rules, l, power, Lint.duplicates,
      Lint.repeatedFrom, hrule]
  rw [hsuggest] at hlog hwarnings
  refine ⟨by decide, hsuggest, hknown ev'.names hrelisted.names_perm, hrun e ∅,
    ?_, hlanguage l,
    hwarnings, (suggest_closest "mot" _).2.2.1 _ hmot⟩
  rw [hlog]
  decide +kernel

end Suggestion
end Phrasebook

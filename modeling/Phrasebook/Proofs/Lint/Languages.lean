import Mathlib
import Phrasebook.Proofs.Expr.Lexing
import Phrasebook.Proofs.Label.Scanning
import Phrasebook.Proofs.Lint.Rendering

/-!
# The check of a language and its renderings

The check of a language reads all rules with the one evaluator that it is given.
Rules of contexts that it passes meet no unknown operator in a rendering with
that evaluator. Rules of cases may, for a rendering evaluates them with the
standard operations: what it reports is what the check of the case with the
standard evaluator reports.
-/

namespace Phrasebook

variable {names : List String}

/-! ## Texts of rules -/

theorem Lexeme.begin?_of_isBlank {c : Char} (h : Text.isBlank c = true)
    (rest : List Char) :
    begin? c rest = none := by
  have hskipped : ∀ n ∈ Label.blankCodes, Char.ofNat n ∉ ['(', ')', '@'] ∧
      isWordChar (Char.ofNat n) = false ∧
      isOperatorChar (Char.ofNat n) = false ∧
      isQuote (Char.ofNat n) = false := by
    decide +kernel
  have hcode := hskipped c.toNat (Label.toNat_mem_blankCodes h)
  rw [Char.ofNat_toNat] at hcode
  obtain ⟨hmark, hword, hoperator, hquote⟩ := hcode
  have hmarks : c ≠ '(' ∧ c ≠ ')' ∧ c ≠ '@' := by simpa using hmark
  obtain ⟨hopening, hclosing, hsigil⟩ := hmarks
  exact begin?_eq_none_iff.mpr ⟨hopening, hclosing, hword, hoperator,
    fun heq => absurd heq hsigil, by simp [hquote]⟩

theorem Lexeme.lexemes_of_isBlank {s : List Char}
    (h : ∀ c ∈ s, Text.isBlank c = true) :
    lexemes s = [] := by
  induction s with
  | nil => rfl
  | cons c s ih =>
      obtain ⟨hc, hs⟩ := List.forall_mem_cons.mp h
      rw [lexemes_cons_of_none (begin?_of_isBlank hc s), ih hs]

/-- A blank text stands for the empty list, which calls nothing. -/
theorem Expr.parse_of_isBlankText {s : String} (h : Text.isBlankText s = true) :
    parse s = .list [] := by
  have hnone : (Lexeme.lex s.toList).map (·.lexeme) = [] :=
    Lexeme.lexemes_of_isBlank (List.all_eq_true.mp h)
  rw [parse, parseChars, hnone]
  rfl

theorem Expr.parse?_eq_ok {s : String} {e : Expr} (h : parse? s = .ok e) :
    parse s = e := by
  unfold parse? at h
  split at h
  · exact absurd h (by simp)
  · simpa using h

/-! ## Warnings about texts of rules -/

namespace Lint

def Warning.isUnparseable : Warning → Bool
  | .unparseable .. => true
  | _ => false

def Warning.operator? : Warning → Option String
  | .unknownOperator _ _ operator _ => some operator
  | _ => none

/-- No warning is about the text of a rule, neither that it cannot be read nor
that it has an unknown operator. -/
def SourcesClean (ws : List Warning) : Prop :=
  ∀ w ∈ ws, w.isUnparseable = false ∧ w.operator? = none

/-- All texts can be read, and the operators reported are among the given. -/
def ReportsWithin (names : List String) (ws : List Warning) : Prop :=
  ∀ w ∈ ws, w.isUnparseable = false ∧ ∀ operator, w.operator? = some operator →
    operator ∈ names

theorem SourcesClean.reportsWithin {ws : List Warning} (h : SourcesClean ws) :
    ReportsWithin names ws := by
  intro w hw
  obtain ⟨hread, hnone⟩ := h w hw
  exact ⟨hread, by simp [hnone]⟩

theorem ReportsWithin.mono {ws ws' : List Warning} (h : ReportsWithin names ws')
    (hsub : ws ⊆ ws') : ReportsWithin names ws :=
  fun w hw => h w (hsub hw)

theorem unknown_subset_of_source {ev : Evaluator} {owner rule text : String}
    {field : Field}
    (h : ReportsWithin names (source ev owner rule field text)) :
    unknown ev (Expr.parse text) ⊆ names := by
  intro operator hoperator
  unfold source at h
  by_cases hblank : Text.isBlankText text = true
  · rw [Expr.parse_of_isBlankText hblank] at hoperator
    simp [unknown] at hoperator
  · rw [if_neg hblank] at h
    cases hread : Expr.parse? text with
    | error error =>
        rw [hread] at h
        have hunparseable := (h _ (List.mem_singleton_self _)).1
        simp [Warning.isUnparseable] at hunparseable
    | ok e =>
        rw [hread] at h
        rw [Expr.parse?_eq_ok hread] at hoperator
        have hwarned :
            .unknownOperator owner rule operator
              (Suggestion.suggest operator ev.names) ∈
            operators ev owner rule e :=
          List.mem_map.mpr ⟨operator, mem_inOrder.mpr hoperator, rfl⟩
        exact (h _ hwarned).2 operator rfl

/-- The check of a rule sees all of its unknown operators. -/
theorem within_of_ruleSources {ev : Evaluator} {owner : String} {r : Rule}
    (h : ReportsWithin names (ruleSources ev owner r)) : r.Within ev names where
  condition := unknown_subset_of_source (h.mono (List.subset_append_left _ _))
  operation e he := by
    have hrest := h.mono (List.subset_append_right _ _)
    unfold Rule.operation? at he
    cases htext : r.operations with
    | none => simp [htext] at he
    | some text =>
        rw [htext] at he hrest
        by_cases hblank : Text.isBlankText text = true
        · simp [hblank] at he
        · obtain rfl : Expr.parse text = e := by simpa [hblank] using he
          exact unknown_subset_of_source hrest

theorem within_of_rules {ev : Evaluator} {owner : String} {rs : List Rule}
    (h : ReportsWithin names (rules ev owner rs)) :
    ∀ r ∈ rs, r.Within ev names := by
  intro r hr
  have hsub : ruleSources ev owner r ⊆ rules ev owner rs := fun w hw =>
    List.mem_append_right _ (List.mem_flatMap.mpr ⟨r, hr, hw⟩)
  exact within_of_ruleSources (h.mono hsub)

/-- Whether a text can be read does not depend on the evaluator. -/
theorem mem_source_of_isUnparseable {ev : Evaluator} {owner rule text : String}
    {field : Field} {w : Warning} (hw : w.isUnparseable = true)
    (h : w ∈ source ev owner rule field text)
    (ev' : Evaluator) : w ∈ source ev' owner rule field text := by
  unfold source at h ⊢
  by_cases hblank : Text.isBlankText text = true
  · simp [hblank] at h
  · rw [if_neg hblank] at h ⊢
    cases hread : Expr.parse? text with
    | error error => simpa [hread] using h
    | ok e =>
        rw [hread] at h
        obtain ⟨operator, -, rfl⟩ := List.mem_map.mp h
        simp [Warning.isUnparseable] at hw

theorem mem_case_of_isUnparseable {ev : Evaluator} {c : Case} {w : Warning}
    (hw : w.isUnparseable = true) (h : w ∈ case ev c) (ev' : Evaluator) :
    w ∈ case ev' c := by
  rcases List.mem_append.mp h with h | h
  · exact List.mem_append_left _ h
  · refine List.mem_append_right _ ?_
    obtain ⟨r, hr, h⟩ := List.mem_flatMap.mp h
    refine List.mem_flatMap.mpr ⟨r, hr, ?_⟩
    rcases List.mem_append.mp h with h | h
    · exact List.mem_append_left _ (mem_source_of_isUnparseable hw h ev')
    · refine List.mem_append_right _ ?_
      cases htext : r.operations with
      | none => simp [htext] at h
      | some text =>
          rw [htext] at h
          exact mem_source_of_isUnparseable hw h ev'

theorem context_subset_language {l : Language} {c : Context}
    (hc : c ∈ l.contexts) (ev : Evaluator) : context ev c ⊆ language ev l := by
  intro w hw
  simp only [language, List.mem_append, List.mem_flatMap]
  exact .inl (.inr ⟨c, hc, hw⟩)

theorem case_subset_language {l : Language} {c : Case} (hc : c ∈ l.cases)
    (ev : Evaluator) :
    case ev c ⊆ language ev l := by
  intro w hw
  simp only [language, List.mem_append, List.mem_flatMap]
  exact .inr ⟨c, hc, hw⟩

end Lint

/-- The check of a language with an adapted evaluator and the renderings with
that evaluator: where no text of a rule is reported, no rule of a context meets
an unknown operator, and a rendering reports only operators that the check of a
case with the standard evaluator would report. -/
theorem Rendering.unknownOperator_of_sourcesClean {r : Rendering} {l : Language}
    (hl : r.language = l) (hev : r.evaluator.Adapted)
    (hclean : Lint.SourcesClean (Lint.language r.evaluator l)) :
    (∀ c ∈ l.contexts, ∀ s, ∀ event ∈ (c.matchingRule? r.evaluator s).log,
      event.unknownOperator? = none) ∧
    ∀ label, ∀ event ∈ (r.render label).log, ∀ name, event.unknownOperator? =
      some name →
      ∃ c ∈ l.cases, ∃ w ∈ Lint.case (Evaluator.standard r.evaluator.clock) c,
        w.operator? = some name := by
  have hcontexts : ∀ names, ∀ c ∈ l.contexts, ∀ rule ∈ c.rules,
      rule.Within r.evaluator names := by
    intro names c hc
    have hsub : Lint.rules r.evaluator
        ("context '" ++ c.keyword ++ "'") c.rules ⊆
        Lint.language r.evaluator l := fun w hw =>
      Lint.context_subset_language hc _ (List.mem_append_right _ hw)
    exact Lint.within_of_rules (hclean.reportsWithin.mono hsub)
  let warnings :=
    l.cases.flatMap (Lint.case (Evaluator.standard r.evaluator.clock))
  let names := warnings.filterMap Lint.Warning.operator?
  have hcases : ∀ c ∈ l.cases, ∀ rule ∈ c.rules,
      rule.Within (Evaluator.standard r.evaluator.clock) names := by
    intro c hc
    have hreports : Lint.ReportsWithin names
        (Lint.case (Evaluator.standard r.evaluator.clock) c) := by
      intro w hw
      have hmem : w ∈ warnings := List.mem_flatMap.mpr ⟨c, hc, hw⟩
      refine ⟨?_, fun operator hoperator =>
        List.mem_filterMap.mpr ⟨w, hmem, hoperator⟩⟩
      by_contra hunparseable
      have hread :=
        Lint.mem_case_of_isUnparseable
          (by simpa using hunparseable) hw r.evaluator
      exact hunparseable (hclean w (Lint.case_subset_language hc _ hread)).1
    exact Lint.within_of_rules hreports
  constructor
  · intro c hc s event hevent
    have honly :=
      Context.only_matchingRule? hev.lintable (hcontexts [] c hc) s event hevent
    exact Option.eq_none_iff_forall_ne_some.mpr
      fun name hname => by simpa using honly name hname
  · intro label event hevent name hname
    have hwithin := within_of_language hl hev.lintable (hcontexts names) hcases
    obtain ⟨w, hw, hoperator⟩ :=
      List.mem_filterMap.mp (hwithin.only_render label event hevent name hname)
    obtain ⟨c, hc, hwarned⟩ := List.mem_flatMap.mp hw
    exact ⟨c, hc, w, hwarned, hoperator⟩

/-- A language with a case that calls an operation `twice`. -/
def Language.doubling : Language where
  locale := "en"
  name := "English"
  contexts := []
  cases := [{
    keyword := "dbl"
    latinName := ""
    nativeName := ""
    description := ""
    application := .phrase
    rules := [{
      keyword := "other"
      description := ""
      examples := ""
      conditions := "(true)"
      operations := some "(twice @value)" }] }]

/-- A rendering with an added operation `twice`, in a language with a case that
calls it. -/
def Rendering.doubling : Rendering where
  data := Table.ofList [("x", .raw (.value (.int 4)))]
  language := Language.doubling
  decorator := Decorator.plain
  settings := Settings.standard
  options := Options.standard
  evaluator := (Evaluator.standard default).add "twice" (.applicative fun vs =>
    match vs with
    | [v] => ((v.int?.bind fun n => Integer.add? n n).map .int).getD .null
    | _ => .null)

namespace Rendering

theorem adapted_doubling : doubling.evaluator.Adapted :=
  .add (.standard default) (by decide) _

theorem lint_doubling :
    Lint.language doubling.evaluator Language.doubling = [] := by
  decide +kernel

theorem unknownOperators_doubling :
    (doubling.render "\x7bx::dbl\x7d").log.map Event.unknownOperator? =
      [some "twice"] := by
  decide +kernel

/-- What the rendering reports is what the check reports that knows the standard
operations only. -/
theorem twice_reported_by_case_check :
    ∃ c ∈ Language.doubling.cases,
      ∃ w ∈ Lint.case (Evaluator.standard doubling.evaluator.clock) c,
        w.operator? = some "twice" := by
  have hclean :
      Lint.SourcesClean
        (Lint.language doubling.evaluator Language.doubling) := by
    simp [lint_doubling, Lint.SourcesClean]
  have hmem : some "twice" ∈ (doubling.render "\x7bx::dbl\x7d").log.map
      Event.unknownOperator? := by
    simp [unknownOperators_doubling]
  obtain ⟨event, hevent, hname⟩ := List.mem_map.mp hmem
  exact (unknownOperator_of_sourcesClean rfl adapted_doubling hclean).2 _ event
    hevent "twice" hname

/-- The check with the evaluator of the rendering has nothing to say about the
language, and yet the case meets an unknown operator and leaves the text as it
is. -/
theorem twice_unknown_in_clean_language :
    doubling.evaluator.Adapted ∧
      Lint.language doubling.evaluator Language.doubling = [] ∧
      (doubling.render "\x7bx::dbl\x7d").value = "4" ∧
      (doubling.render "\x7bx::dbl\x7d").log.map Event.unknownOperator? =
        [some "twice"] :=
  ⟨adapted_doubling, lint_doubling, by decide +kernel,
    unknownOperators_doubling⟩

end Rendering
end Phrasebook

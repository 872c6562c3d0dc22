import Mathlib
import Phrasebook.Language.Case
import Phrasebook.Proofs.Eval.Reading
import Phrasebook.Proofs.Expr.Spelling

/-!
# Which rule of a case decides

The rules of a case are scanned for the first that holds. The only trace that a
rule leaves when it does not hold is the gender, which is added to the variables
once the text of a condition mentions it. A later condition that refers to the
gender mentions it as well, so the trace never changes which rule decides.
Operations are not searched for the gender, though. So the operation of the rule
that decides may find the gender only because of a rule that was passed over.
-/

namespace Phrasebook

namespace Rule

/-- Whether the condition mentions the gender, as far as a search of its text
can tell. -/
def mentionsGender (r : Rule) : Bool :=
  Text.contains r.conditions Case.genderVariable

/-- The operation refers to the gender. -/
def ReadsGender (r : Rule) : Prop :=
  ∃ operation, r.operation? = some operation ∧
    Case.genderVariable ∈ operation.symbols

variable {r : Rule} {clock : Moment} {b b' : Bindings}

/-- A rule does not look at a variable that its condition does not mention. -/
theorem value_holds_of_not_mentionsGender (h : r.mentionsGender = false)
    (hagree : ∀ name, name ≠ Case.genderVariable → b.get? name = b'.get? name) :
    (r.holds (Evaluator.standard clock) b).value =
      (r.holds (Evaluator.standard clock) b').value := by
  have hspecial := (Evaluator.extendedBy_standard clock fun _ => True).noSpecial
  have hsymbols : ∀ name ∈ r.condition.symbols, b.get? name = b'.get? name := by
    intro name hname
    refine hagree name ?_
    rintro rfl
    have hmentions : r.mentionsGender = true :=
      Expr.contains_of_mem_symbols_parse hname
    rw [h] at hmentions
    exact Bool.noConfusion hmentions
  exact congrArg Value.truthy
    (Evaluator.run_agree hspecial r.condition hsymbols).1

theorem value_transform_of_not_readsGender (h : ¬ r.ReadsGender)
    (value : String)
    (hagree : ∀ name, name ≠ Case.genderVariable → b.get? name = b'.get? name) :
    (r.transform (Evaluator.standard clock) value b).value =
      (r.transform (Evaluator.standard clock) value b').value := by
  have hspecial := (Evaluator.extendedBy_standard clock fun _ => True).noSpecial
  unfold transform
  cases hoperation : r.operation? with
  | none => rfl
  | some operation =>
      have hsymbols : ∀ name ∈ operation.symbols,
          (b.set valueVariable (.str value)).get? name =
            (b'.set valueVariable (.str value)).get? name := by
        intro name hname
        have hne : name ≠ Case.genderVariable := by
          rintro rfl
          exact h ⟨operation, hoperation, hname⟩
        rw [Table.get?_set, Table.get?_set, hagree name hne]
      have hvalue := (Evaluator.run_agree hspecial operation hsymbols).1
      exact congrArg (fun v => if v.isNull then value else v.text) hvalue

end Rule

namespace Case

/-- The variables with which the scan of the rules begins. -/
def atStart (value : String) : Bindings :=
  Table.empty.set valueVariable (.str value)

/-- The first rule that holds, with the variables as they are when the scan has
reached it. -/
def decisive? (e : Setting) (b : Bindings) :
    List Rule → Option (Rule × Bindings)
  | [] => none
  | r :: rest =>
    let b := withGender e.language e.subject r b
    if (r.holds (Evaluator.standard e.clock) b).value then some (r, b)
    else decisive? e b rest

/-- The variables behind rules that do not hold. -/
def behind (e : Setting) (b : Bindings) (rules : List Rule) : Bindings :=
  rules.foldl (fun b r => withGender e.language e.subject r b) b

/-- The text that a rule makes of a value, with what is put around it. -/
def outcome (keyword : String) (e : Setting) (value : String) (r : Rule)
    (b : Bindings) : String :=
  let transformed := (r.transform (Evaluator.standard e.clock) value b).value
  if transformed == value || e.options.skipDecorations then transformed
  else e.decorator.case keyword value transformed

variable {e : Setting} {value keyword : String} {b : Bindings} {r : Rule}
  {rules before : List Rule}

theorem value_applyRules (keyword : String) (e : Setting) (value : String)
    (b : Bindings) (rules : List Rule) :
    (applyRules keyword e value b rules).value =
      ((decisive? e b rules).map fun p => outcome keyword e value p.1 p.2).getD
        value := by
  induction rules generalizing b with
  | nil => rfl
  | cons r rest ih =>
      simp only [applyRules, decisive?, Logged.value_bind]
      split
      · rfl
      · exact ih _

theorem decisive?_append (before after : List Rule) :
    decisive? e b (before ++ after) =
      (decisive? e b before).orElse fun _ =>
        decisive? e (behind e b before) after := by
  induction before generalizing b with
  | nil => rfl
  | cons r before ih =>
      simp only [List.cons_append, decisive?]
      split
      · rfl
      · exact ih

/-! ## The two stages of a scan -/

/-- The variables during a scan, before or after the gender has been added. -/
def scope (e : Setting) (value : String) (known : Bool) : Bindings :=
  if known then (atStart value).set genderVariable
    (genderOf e.language e.subject)
  else atStart value

theorem get?_scope {name : String} (hname : name ≠ genderVariable)
    (known known' : Bool) :
    (scope e value known).get? name = (scope e value known').get? name := by
  have hstart : ∀ known, (scope e value known).get? name =
      (atStart value).get? name := by
    intro known
    cases known with
    | false => rfl
    | true => exact (Table.get?_set _ _ _ _).trans (if_neg hname.symm)
  rw [hstart, hstart]

theorem contains_scope (known : Bool) :
    (scope e value known).contains genderVariable = known := by
  cases known with
  | false => rfl
  | true =>
      have hget : (scope e value true).get? genderVariable =
          some (genderOf e.language e.subject) :=
        (Table.get?_set _ _ _ _).trans (if_pos rfl)
      rw [Table.contains, hget, Option.isSome_some]

theorem withGender_scope (r : Rule) (known : Bool) :
    withGender e.language e.subject r (scope e value known) =
      scope e value (known || r.mentionsGender) := by
  unfold withGender
  rw [contains_scope, ← Rule.mentionsGender]
  cases known with
  | true => simp
  | false =>
      cases r.mentionsGender with
      | true => rfl
      | false => rfl

theorem behind_scope (known : Bool) (rules : List Rule) :
    behind e (scope e value known) rules =
      scope e value (known || rules.any Rule.mentionsGender) := by
  induction rules generalizing known with
  | nil => simp [behind]
  | cons r rules ih =>
      have hnext : behind e (scope e value known) (r :: rules) =
          behind e (withGender e.language e.subject r (scope e value known))
            rules := rfl
      rw [hnext, withGender_scope, ih, List.any_cons, Bool.or_assoc]

theorem exists_scope_of_decisive? {known : Bool}
    (h : decisive? e (scope e value known) rules = some (r, b)) :
    ∃ known', b = scope e value known' := by
  induction rules generalizing known with
  | nil => simp [decisive?] at h
  | cons first rules ih =>
      rw [decisive?, withGender_scope] at h
      split at h
      · exact ⟨_, (congrArg Prod.snd (Option.some.inj h)).symm⟩
      · exact ih h

/-- The same rule decides whether the gender is known from the start or not. If
it is, it stays known. -/
theorem decisive?_scope_true (known : Bool) (rules : List Rule) :
    decisive? e (scope e value true) rules =
      (decisive? e (scope e value known) rules).map fun p =>
        (p.1, scope e value true) := by
  induction rules generalizing known with
  | nil => rfl
  | cons r rules ih =>
      rw [decisive?, decisive?, withGender_scope, withGender_scope,
        Bool.true_or]
      have hholds :
          (r.holds (Evaluator.standard e.clock) (scope e value true)).value =
          (r.holds (Evaluator.standard e.clock)
            (scope e value (known || r.mentionsGender))).value := by
        cases hmentions : r.mentionsGender with
        | true => rw [Bool.or_true]
        | false =>
            exact Rule.value_holds_of_not_mentionsGender hmentions
              fun _ hname => get?_scope hname _ _
      rw [hholds]
      split
      · rfl
      · exact ih _

/-! ## Passing over a rule -/

theorem outcome_scope_of_not_readsGender (h : ¬ r.ReadsGender)
    (known known' : Bool) :
    outcome keyword e value r (scope e value known) =
      outcome keyword e value r (scope e value known') := by
  have hagree : ∀ name, name ≠ genderVariable →
      (scope e value known).get? name = (scope e value known').get? name :=
    fun _ hname => get?_scope hname known known'
  have htransform :
      (r.transform (Evaluator.standard e.clock) value
        (scope e value known)).value =
        (r.transform (Evaluator.standard e.clock) value
          (scope e value known')).value :=
    Rule.value_transform_of_not_readsGender h value hagree
  unfold outcome
  rw [htransform]

/-- A rule that does not hold when the scan reaches it is passed over: the scan
finds the same rule as without it, and perhaps the gender among the
variables. -/
theorem decisive?_of_skipped (after : List Rule)
    (hskipped : decisive? e (atStart value) before = none →
      (r.holds (Evaluator.standard e.clock)
        (withGender e.language e.subject r
          (behind e (atStart value) before))).value = false) :
    decisive? e (atStart value) (before ++ r :: after) =
        decisive? e (atStart value) (before ++ after) ∨
      r.mentionsGender = true ∧
      decisive? e (atStart value) (before ++ r :: after) =
        (decisive? e (atStart value) (before ++ after)).map fun p =>
          (p.1, scope e value true) := by
  have hbehind : behind e (atStart value) before =
      scope e value (before.any Rule.mentionsGender) :=
    behind_scope false before
  rw [decisive?_append, decisive?_append]
  cases hbefore : decisive? e (atStart value) before with
  | some p => exact .inl rfl
  | none =>
      have hfails := hskipped hbefore
      rw [hbehind, withGender_scope] at hfails
      have hnext : decisive? e (behind e (atStart value) before) (r :: after) =
          decisive? e
            (scope e value (before.any Rule.mentionsGender || r.mentionsGender))
            after := by
        rw [hbehind, decisive?, withGender_scope, hfails,
          if_neg Bool.false_ne_true]
      rw [Option.orElse_none, Option.orElse_none, hnext, hbehind]
      cases hmentions : r.mentionsGender with
      | false =>
          rw [Bool.or_false]
          exact .inl rfl
      | true =>
          rw [Bool.or_true]
          exact .inr ⟨rfl, decisive?_scope_true _ after⟩

theorem value_apply_phrase {c : Case} (hphrase : c.application = .phrase)
    (e : Setting) (value : String) :
    (c.apply e value).value =
      ((decisive? e (atStart value) c.rules).map fun p =>
        outcome c.keyword e value p.1 p.2).getD value := by
  rw [← value_applyRules, apply]
  split
  · rename_i hempty
    rw [List.isEmpty_iff.mp hempty]
    rfl
  · rw [hphrase]
    rfl

/-- Taking a rule out of a case that does not hold when the scan reaches it
never changes which rule decides. It does not change the result either, unless
the condition of the rule mentions the gender and the operation that decides
refers to it without its being known from a condition left. -/
theorem apply_of_skipped (c : Case) (hphrase : c.application = .phrase)
    (e : Setting) (value : String) {before after : List Rule} {r : Rule}
    (hskipped : decisive? e (atStart value) before = none →
      (r.holds (Evaluator.standard e.clock)
        (withGender e.language e.subject r
          (behind e (atStart value) before))).value = false) :
    let decided := decisive? e (atStart value)
    let applied := fun rules => ({ c with rules := rules }.apply e value).value
    (decided (before ++ r :: after)).map Prod.fst =
    (decided (before ++ after)).map Prod.fst ∧
      ((r.mentionsGender = true → ∀ r' b,
        decided (before ++ after) = some (r', b) →
          r'.ReadsGender → b.contains genderVariable = true) →
        applied (before ++ r :: after) = applied (before ++ after)) := by
  intro decided applied
  have happlied : ∀ rules, applied rules =
      ((decided rules).map fun p => outcome c.keyword e value p.1 p.2).getD
        value :=
    fun rules => value_apply_phrase
      (c := { c with rules := rules }) hphrase e value
  rcases decisive?_of_skipped after hskipped with hsame | ⟨hmentions, hknown⟩
  · have hdecided :
        decided (before ++ r :: after) = decided (before ++ after) := hsame
    rw [happlied, happlied, hdecided]
    exact ⟨rfl, fun _ => rfl⟩
  · have hdecided : decided (before ++ r :: after) =
        (decided (before ++ after)).map fun p => (p.1, scope e value true) :=
      hknown
    rw [happlied, happlied, hdecided]
    cases hrest : decided (before ++ after) with
    | none => exact ⟨rfl, fun _ => rfl⟩
    | some p =>
        obtain ⟨r', b⟩ := p
        refine ⟨rfl, fun hgender => ?_⟩
        have hscope : decisive? e (scope e value false) (before ++ after) =
            some (r', b) := hrest
        obtain ⟨known, rfl⟩ := exists_scope_of_decisive? hscope
        have houtcome : outcome c.keyword e value r' (scope e value true) =
            outcome c.keyword e value r' (scope e value known) := by
          by_cases hreads : r'.ReadsGender
          · have hcontains := hgender hmentions r' _ rfl hreads
            rw [contains_scope] at hcontains
            rw [hcontains]
          · exact outcome_scope_of_not_readsGender hreads true known
        exact congrArg (fun text => (some text).getD value) houtcome

def pronoun : Case where
  keyword := "pro"
  latinName := ""
  nativeName := ""
  description := ""
  application := .phrase
  rules := []

def herRule : Rule :=
  ⟨"her", "", "", "(&& (= @value 'his/her') (= @gender 'female'))",
    some "(quote her)"⟩

def hisRule : Rule :=
  ⟨"his", "", "", "(= @value 'his/her')",
    some "(if (= @gender 'male') 'his' 'their')"⟩

def ofMan : Setting where
  language := (⟨"en", "English",
    [⟨"gender", "", [], "other", none, ["@gender"], ∅, none, []⟩], []⟩ :
      Language)
  subject := some (.map ⟨[("gender", .str "male")]⟩)
  decorator := Decorator.plain
  options := Options.standard
  clock := default

/-- Behind a condition that mentions the gender another one may be passed
over. -/
theorem apply_of_skipped_pronoun :
    let applied :=
      fun rules => ({ pronoun with rules := rules }.apply ofMan "his/her").value
    applied [herRule, herRule, hisRule] = "his" ∧
      applied [herRule, hisRule] = "his" := by
  intro applied
  have hskipped : decisive? ofMan (atStart "his/her") [herRule] = none →
      (herRule.holds (Evaluator.standard ofMan.clock)
        (withGender ofMan.language ofMan.subject
        herRule (behind ofMan (atStart "his/her") [herRule]))).value =
          false := by
    intro _
    decide +kernel
  have hknown :
      (decisive? ofMan (atStart "his/her") ([herRule] ++ [hisRule])).map
      (fun p => p.2.contains genderVariable) = some true := by decide +kernel
  have hgender : herRule.mentionsGender = true → ∀ r' b,
      decisive? ofMan (atStart "his/her") ([herRule] ++ [hisRule]) =
        some (r', b) →
        r'.ReadsGender → b.contains genderVariable = true := by
    intro _ r' b hdecided _
    rw [hdecided] at hknown
    exact Option.some.inj hknown
  have hresult : applied [herRule, hisRule] = "his" := by decide +kernel
  have hsame :=
    (apply_of_skipped pronoun rfl ofMan "his/her" hskipped).2 hgender
  exact ⟨hsame.trans hresult, hresult⟩

/-- A rule that does not hold is taken out, and the result is another: the
operation of the next rule refers to the gender, which its own condition does
not mention. -/
theorem gender_from_skipped_rule :
    let applied :=
      fun rules => ({ pronoun with rules := rules }.apply ofMan "his/her").value
    (herRule.holds (Evaluator.standard ofMan.clock)
      (withGender ofMan.language ofMan.subject
        herRule (atStart "his/her"))).value = false ∧
      applied [herRule, hisRule] = "his" ∧ applied [hisRule] = "their" := by
  intro applied
  exact ⟨by decide +kernel, by decide +kernel, by decide +kernel⟩

end Case
end Phrasebook

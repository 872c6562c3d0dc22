import Mathlib
import Phrasebook.Render
import Phrasebook.Proofs.Lint.Operators

/-!
# Unknown operators in a rendering

A rendering evaluates rules in two places: those of the context that governs a
piped token, with the evaluator of the rendering, and those of the cases that a
key of a token or of a template asks for, with the standard operations. What a
rendering reports as unknown is therefore in a rule of a context, as the
evaluator of the rendering knows it, or in a rule of a case, as the standard one
does. The journal of each function of a rendering is followed from the rules
upwards.
-/

namespace Phrasebook

open Logged (only_pure only_tell)

variable {α β : Type} {names : List String}

theorem Event.namedIn_of_none {e : Event} (h : e.unknownOperator? = none) :
    e.NamedIn names := by
  simp [NamedIn, h]

/-! ## Rules -/

/-- The unknown operators of a rule are among the given. -/
structure Rule.Within (ev : Evaluator) (names : List String) (r : Rule) :
    Prop where
  condition : Lint.unknown ev r.condition ⊆ names
  operation : ∀ e, r.operation? = some e → Lint.unknown ev e ⊆ names

namespace Rule

variable {ev : Evaluator} {r : Rule}

theorem only_holds (hev : ev.Lintable) (h : r.Within ev names) (b : Bindings) :
    (r.holds ev b).Only (Event.NamedIn names) :=
  (Evaluator.notices_evaluate hev r.condition h.condition b).1.bind
    (only_pure _)

theorem only_transform (hev : ev.Lintable) (h : r.Within ev names)
    (value : String)
    (b : Bindings) : (r.transform ev value b).Only (Event.NamedIn names) := by
  unfold transform
  split
  · exact only_pure _
  · rename_i e he
    exact (Evaluator.notices_evaluate hev e (h.operation e he) _).1.bind
      (only_pure _)

theorem only_first? (hev : ev.Lintable) {rs : List Rule}
    (h : ∀ r ∈ rs, r.Within ev names)
    (b : Bindings) : (first? ev b rs).Only (Event.NamedIn names) := by
  induction rs with
  | nil => exact only_pure _
  | cons r rs ih =>
      obtain ⟨hr, hrs⟩ := List.forall_mem_cons.mp h
      refine (only_holds hev hr b).bind ?_
      split
      · exact only_pure _
      · exact ih hrs

end Rule

/-! ## Contexts and cases -/

theorem Context.only_matchingRule? {ev : Evaluator} (hev : ev.Lintable)
    {c : Context} (h : ∀ r ∈ c.rules, r.Within ev names) (s : Subject) :
    (c.matchingRule? ev s).Only (Event.NamedIn names) :=
  Rule.only_first? hev (fun r hr => h r (List.mem_of_mem_filter hr)) _

theorem Context.only_governs (c : Context) (place : Nat) (token : String) :
    (c.governs place token).Only (Event.NamedIn names) := by
  unfold governs
  split
  · exact only_pure _
  · split
    · exact only_pure _
    · exact (only_tell (Event.namedIn_of_none rfl)).bind (only_pure _)

theorem Language.only_governing? (l : Language) (token : String) :
    (l.governing? token).Only (Event.NamedIn names) := by
  have hfrom : ∀ (cs : List Context) (place : Nat),
      (governingFrom token place cs).Only (Event.NamedIn names) := by
    intro cs
    induction cs with
    | nil => exact fun place => only_pure _
    | cons c cs ih =>
        intro place
        refine (c.only_governs place token).bind ?_
        split
        · exact only_pure _
        · exact ih (place + 1)
  exact hfrom l.contexts 0

namespace Case

variable {e : Setting}

theorem only_applyRules (keyword value : String) {rs : List Rule}
    (h : ∀ r ∈ rs, r.Within (Evaluator.standard e.clock) names) (b : Bindings) :
    (applyRules keyword e value b rs).Only (Event.NamedIn names) := by
  have hev := (Evaluator.extendedBy_standard e.clock _).lintable
  induction rs generalizing b with
  | nil => exact only_pure _
  | cons r rs ih =>
      obtain ⟨hr, hrs⟩ := List.forall_mem_cons.mp h
      refine (Rule.only_holds hev hr _).bind ?_
      split
      · exact (Rule.only_transform hev hr value _).bind (only_pure _)
      · exact ih hrs _

theorem only_apply {c : Case}
    (h : ∀ r ∈ c.rules, r.Within (Evaluator.standard e.clock) names)
    (value : String) : (c.apply e value).Only (Event.NamedIn names) := by
  have helement :
      ∀ value, (c.applyElement e value).Only (Event.NamedIn names) :=
    fun value => only_applyRules c.keyword value h _
  have hpieces : ∀ ps, (c.applyPieces e ps).Only (Event.NamedIn names) := by
    intro ps
    induction ps with
    | nil => exact only_pure _
    | cons p ps ih =>
        unfold applyPieces
        split
        · exact (helement _).bind (ih.bind (only_pure _))
        · exact (only_pure _).bind (ih.bind (only_pure _))
  unfold apply
  split
  · exact only_pure _
  · split
    · exact helement value
    · exact hpieces _

end Case

/-! ## A rendering -/

/-- The unknown operators of all rules that a rendering can reach are among the
given, each rule taken with the evaluator that it is evaluated with. -/
structure Rendering.Within (names : List String) (r : Rendering) : Prop where
  lintable : r.evaluator.Lintable
  governing : ∀ token, (r.language.governing? token).Only (Event.NamedIn names)
  contexts : ∀ token c, (r.contextOf? token).value = some c →
    ∀ rule ∈ c.rules, rule.Within r.evaluator names
  cases : ∀ key c, r.language.case? key = some c →
    ∀ rule ∈ c.rules, rule.Within (Evaluator.standard r.evaluator.clock) names

namespace Rendering

variable {r : Rendering}

theorem only_tell_pure {e : Event} (he : e.unknownOperator? = none) (a : α) :
    (Logged.tell e >>= fun _ => pure a).Only (Event.NamedIn names) :=
  (only_tell (Event.namedIn_of_none he)).bind (only_pure a)

theorem Within.only_case (h : r.Within names) {key : String} {c : Case}
    (hc : r.language.case? key = some c) (s : Option Subject) (value : String) :
    (c.apply (r.caseSetting s) value).Only (Event.NamedIn names) :=
  Case.only_apply (h.cases key c hc) value

theorem Within.only_inflect? (h : r.Within names) (s : Subject) (token : String)
    (keys : List (List Char)) (value : String) :
    (r.inflect? s token keys value).Only (Event.NamedIn names) := by
  induction keys generalizing value with
  | nil => exact only_pure _
  | cons key keys ih =>
      unfold inflect?
      split
      · exact only_tell_pure rfl _
      · rename_i c hc
        exact (h.only_case hc _ _).bind (ih _)

theorem Within.only_parameter? (h : r.Within names) (s : Subject)
    (token : String)
    (params : List String) (digits : List Char) (keys : List (List Char)) :
    (r.parameter? s token params digits keys).Only (Event.NamedIn names) := by
  unfold parameter?
  split
  · split
    · exact only_pure _
    · split
      · exact only_tell_pure rfl _
      · exact h.only_inflect? s token keys _
  · exact only_pure _

theorem Within.only_fillParts? (h : r.Within names) (s : Subject)
    (token : String) (params : List String) (fs : List Fill) :
    (r.fillParts? s token params fs).Only (Event.NamedIn names) := by
  induction fs with
  | nil => exact only_pure _
  | cons f fs ih =>
      cases f with
      | text c => exact ih.bind (only_pure _)
      | placeholder digits keys =>
          refine (h.only_parameter? s token params digits keys).bind ?_
          split
          · exact only_pure _
          · exact ih.bind (only_pure _)

theorem Within.only_fillAll? (h : r.Within names) (s : Subject) (token : String)
    (params : List String) (ts : Templates) :
    (r.fillAll? s token params ts).Only (Event.NamedIn names) := by
  induction ts with
  | nil => exact only_pure _
  | cons t ts ih =>
      refine (h.only_fillParts? s token params _).bind ?_
      split
      · exact only_pure _
      · exact ih.bind (only_pure _)

theorem Within.only_phrases? (h : r.Within names) (c : Context)
    (token : TokenName) (params : List String) (s : Subject) :
    (r.phrases? c token params s).Only (Event.NamedIn names) := by
  unfold phrases?
  split
  · exact only_pure _
  · split
    · exact only_tell_pure rfl _
    · exact (h.only_fillAll? s token.full params _).bind (only_pure _)

theorem Within.only_contextOf? (h : r.Within names) (token : TokenName) :
    (r.contextOf? token).Only (Event.NamedIn names) := by
  unfold contextOf?
  split
  · exact only_pure _
  · exact h.governing _

theorem mem_contexts_of_governingFrom {token : String} {cs : List Context}
    {place : Nat}
    {c : Context} (h : (Language.governingFrom token place cs).value = some c) :
    c ∈ cs := by
  induction cs generalizing place with
  | nil => simp [Language.governingFrom] at h
  | cons c' cs ih =>
      rw [Language.governingFrom, Logged.value_bind] at h
      split at h
      · obtain rfl : c' = c := by simpa using h
        exact List.mem_cons_self
      · exact List.mem_cons_of_mem c' (ih h)

theorem mem_contexts_of_contextOf? {l : Language} (hl : r.language = l)
    {token : TokenName} {c : Context}
    (h : (r.contextOf? token).value = some c) : c ∈ l.contexts := by
  unfold contextOf? at h
  rw [hl] at h
  split at h
  · exact List.mem_of_find?_eq_some h
  · exact mem_contexts_of_governingFrom h

theorem within_of_language {l : Language} (hl : r.language = l)
    (hev : r.evaluator.Lintable)
    (hcontexts : ∀ c ∈ l.contexts, ∀ rule ∈ c.rules,
      rule.Within r.evaluator names)
    (hcases : ∀ c ∈ l.cases, ∀ rule ∈ c.rules,
      rule.Within (Evaluator.standard r.evaluator.clock) names) :
    r.Within names where
  lintable := hev
  governing token := hl ▸ l.only_governing? token
  contexts _ c hc := hcontexts c (mem_contexts_of_contextOf? hl hc)
  cases _ c hc := by
    rw [hl] at hc
    exact hcases c (List.mem_of_find?_eq_some hc)

theorem Within.only_variant? (h : r.Within names) (token : TokenName)
    (params : List String)
    (s : Subject) : (r.variant? token params s).Only (Event.NamedIn names) := by
  refine (h.only_contextOf? token).bind ?_
  split
  · exact only_tell_pure rfl _
  · rename_i c hc
    refine (h.only_phrases? c token params s).bind ?_
    split
    · exact only_pure _
    · have hrules := h.contexts token c hc
      exact (Context.only_matchingRule? h.lintable hrules s).bind (only_pure _)

theorem Within.only_value? (h : r.Within names) (t : Token) :
    (r.value? t).Only (Event.NamedIn names) := by
  cases t with
  | data name => exact only_pure _
  | method name object method => exact only_pure _
  | piped name separator params =>
      change (r.pipedValue? name separator params).Only (Event.NamedIn names)
      unfold pipedValue?
      split
      · exact only_pure _
      · split
        · exact only_pure _
        · exact (h.only_variant? name params _).bind (only_pure _)

theorem Within.only_inflect (h : r.Within names) (s : Option Subject)
    (token : String) (keys : List String) (value : String) :
    (r.inflect s token keys value).Only (Event.NamedIn names) := by
  induction keys generalizing value with
  | nil => exact only_pure _
  | cons key keys ih =>
      unfold inflect
      split
      · exact (only_tell (Event.namedIn_of_none rfl)).bind (ih value)
      · rename_i c hc
        exact (h.only_case hc s value).bind (ih _)

theorem Within.only_replacement? (h : r.Within names) (t : Token)
    (label : String) :
    (r.replacement? t label).Only (Event.NamedIn names) := by
  have hinflected :
      ∀ value, (r.inflected t value).Only (Event.NamedIn names) := by
    intro value
    unfold inflected
    split
    · exact h.only_inflect _ _ _ value
    · exact only_pure _
  unfold replacement?
  split
  · refine (h.only_value? t).bind ?_
    split
    · exact only_tell_pure rfl _
    · exact (hinflected _).bind (only_pure _)
  · exact only_pure _

theorem Within.only_substituteAll (h : r.Within names) (ts : List Token)
    (label : String) :
    (r.substituteAll ts label).Only (Event.NamedIn names) := by
  induction ts generalizing label with
  | nil => exact only_pure _
  | cons t ts ih =>
      have hstep : (r.substitute t label).Only (Event.NamedIn names) := by
        refine (h.only_replacement? t label).bind ?_
        split <;> exact only_pure _
      exact hstep.bind (ih _)

theorem only_decorate (r : Rendering) (label name content : String) :
    (r.decorate label name content).Only (Event.NamedIn names) := by
  unfold decorate
  split
  · exact only_pure _
  · split
    · exact only_pure _
    · exact only_pure _
    · split
      · exact only_pure _
      · exact only_tell_pure rfl _
    · split <;> exact only_pure _
    · split <;> exact only_pure _

mutual

theorem only_nodeText (r : Rendering) (label : String) :
    (n : Markup.Node) → (r.nodeText label n).Only (Event.NamedIn names)
  | .text _ => only_pure _
  | .element name children =>
    (only_nodeTexts r label children).bind (r.only_decorate label name _)

theorem only_nodeTexts (r : Rendering) (label : String) :
    (ns : List Markup.Node) → (r.nodeTexts label ns).Only (Event.NamedIn names)
  | [] => only_pure _
  | n :: ns => (only_nodeText r label n).bind
      ((only_nodeTexts r label ns).bind (only_pure _))

end

/-- What a rendering reports as unknown is in a rule that it can reach. -/
theorem Within.only_render (h : r.Within names) (label : String) :
    (r.render label).Only (Event.NamedIn names) := by
  have hmarked : ∀ filled : String,
      (if filled.toList.contains '[' && !r.options.skipDecorations
        then r.fillMarkup filled
        else pure filled).Only (Event.NamedIn names) := by
    intro filled
    split
    · exact r.only_nodeText _ _
    · exact only_pure _
  unfold render
  split
  · exact (h.only_substituteAll _ label).bind (hmarked _)
  · exact (only_pure label).bind (hmarked _)

end Rendering

end Phrasebook

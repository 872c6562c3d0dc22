import Phrasebook.Proofs.Label.Mapping
import Phrasebook.Proofs.Table.Entries

/-!
# Phrases with and without their keywords

The parameters of a piped token may bring their keywords, or be named by number
in the templates of the context. Where every template is a single placeholder
without cases, the two forms give the same phrases under the same keywords, and
a phrase is looked up by its keyword alone.
-/

namespace Phrasebook

/-- What comes after a computation depends on its value alone. -/
theorem Logged.bind_congr_value {α β : Type} {x : Logged α} {f g : α → Logged β}
    (h : f x.value = g x.value) : x >>= f = x >>= g := by
  change Logged.bind x f = Logged.bind x g
  rw [Logged.bind, Logged.bind, h]

namespace Rendering

/-- A keyword is set off by the first colon, so the phrase may have colons as
well. -/
theorem keyed?_of_trimmed {keyword phrase : String}
    (hcolon : ':' ∉ keyword.toList)
    (hkeyword : Text.trimBoth keyword.toList = keyword.toList)
    (hphrase : Text.trimBoth phrase.toList = phrase.toList) :
    keyed? (keyword ++ ": " ++ phrase) = some (keyword, phrase) := by
  have htext : (keyword ++ ": " ++ phrase).toList =
      keyword.toList ++ ([':'] ++ ' ' :: phrase.toList) := by
    simp
  have hblank : Text.trimBoth (' ' :: phrase.toList) = phrase.toList := by
    rw [Text.trimBoth_cons_of_isBlank (by decide), hphrase]
  rw [keyed?, htext, Text.cut?_append hcolon]
  simp [hkeyword, hblank]

variable {r : Rendering} {token : TokenName} {s : Subject} {c : Context}
variable {params params' : List String}

/-- The phrase of a token is the one under the keyword of the rule that holds,
or else the one under the default keyword. -/
theorem value_variant?_of_phrases? {phrases : Table String}
    (hcontext : (r.contextOf? token).value = some c)
    (hphrases : r.phrases? c token params s = pure (some phrases)) :
    (r.variant? token params s).value =
      ((c.matchingRule? r.evaluator s).value.bind fun rule =>
        phrases.get? rule.keyword).orElse
        fun _ => phrases.get? c.defaultKey := by
  unfold variant?
  rw [Logged.value_bind, hcontext]
  simp only [hphrases, pure_bind, Logged.value_bind, Logged.value_pure]

/-- Only the phrases found under keywords matter for the phrase of a token. -/
theorem variant?_congr {phrases phrases' : Table String}
    (hcontext : (r.contextOf? token).value = some c)
    (hphrases : r.phrases? c token params s = pure (some phrases))
    (hphrases' : r.phrases? c token params' s = pure (some phrases'))
    (hget : ∀ keyword, phrases.get? keyword = phrases'.get? keyword) :
    r.variant? token params s = r.variant? token params' s := by
  have hphrase : ∀ rule : Option Rule,
      ((rule.bind fun rule => phrases.get? rule.keyword).orElse fun _ =>
        phrases.get? c.defaultKey) =
      (rule.bind fun rule => phrases'.get? rule.keyword).orElse fun _ =>
        phrases'.get? c.defaultKey := by
    intro rule
    simp only [hget]
  unfold variant?
  refine Logged.bind_congr_value ?_
  rw [hcontext]
  simp only [hphrases, hphrases', pure_bind, hphrase]

/-! ## Templates of one placeholder -/

/-- A keyword with a placeholder without cases for its template. -/
structure PlainEntry where
  keyword : String
  slot : Slot
  trimmed : Text.trimBoth keyword.toList = keyword.toList
  noColon : ':' ∉ keyword.toList
  keys_eq_nil : slot.keys = []

namespace PlainEntry

variable (e : PlainEntry)

def template : String × String :=
  (e.keyword, String.ofList e.slot.chars)

def phrase (params : List String) : String :=
  params.getD e.slot.index ""

/-- That parameter with the keyword in front. -/
def keyedParam (params : List String) : String :=
  e.keyword ++ ": " ++ e.phrase params

def entry (params : List String) : String × String :=
  (e.keyword, e.phrase params)

variable {e}

theorem fill?_template (hindex : e.slot.index < params.length) (name : String) :
    r.fill? s name params e.template.2 = pure (some (e.phrase params)) := by
  have hclear : Text.TemplatePart.Clear (['{', '$'] <+: ·) Slot.chars
      [.mark e.slot] := trivial
  have hparts : Fill.parts (String.ofList e.slot.chars) = [e.slot.fill] := by
    simpa [Text.TemplatePart.chars, Fill.ofPart] using Fill.parts_written hclear
  have hparam : params[e.slot.index]? = some (e.phrase params) := by
    simp [phrase, List.getElem?_eq_getElem hindex]
  rw [fill?, template, hparts, Slot.fill, fillParts?,
    r.parameter?_of_getElem? s name params e.slot hparam, e.keys_eq_nil]
  simp [inflect?, fillParts?]

end PlainEntry

variable {entries : List PlainEntry}

theorem fillAll?_templates
    (hindex : ∀ e ∈ entries, e.slot.index < params.length) (name : String) :
    r.fillAll? s name params (entries.map PlainEntry.template) =
      pure (some (entries.map fun e => e.entry params)) := by
  induction entries with
  | nil => rfl
  | cons e entries ih =>
      obtain ⟨hhere, hlater⟩ := List.forall_mem_cons.mp hindex
      have hfill := PlainEntry.fill?_template (r := r) (s := s) hhere name
      rw [List.map_cons, PlainEntry.template, fillAll?]
      rw [PlainEntry.template] at hfill
      simp [hfill, ih hlater, PlainEntry.entry]

theorem filterMap_keyedParam
    (hindex : ∀ e ∈ entries, e.slot.index < params.length)
    (htrimmed : ∀ p ∈ params, Text.trimBoth p.toList = p.toList) :
    (entries.map fun e => e.keyedParam params).filterMap keyed? =
      entries.map fun e => e.entry params := by
  rw [List.filterMap_map, ← List.filterMap_eq_map]
  refine List.filterMap_congr ?_
  intro e he
  refine keyed?_of_trimmed e.noColon e.trimmed (htrimmed _ ?_)
  simp [PlainEntry.phrase, List.getElem?_eq_getElem (hindex e he)]

/-- Parameters with and without keywords agree. Where the context maps as many
parameters through templates of one placeholder each, the parameters by number
give the same phrase as the parameters with the keywords of the templates in
front, in whatever order these stand, and they leave the same journal. The
phrase is the parameter for the rule that holds, or else for the default
keyword. -/
theorem variant?_keyed (hcontext : (r.contextOf? token).value = some c)
    (hmapping : (c.mapping.bind fun m => m.forArity? params.length) =
      some (entries.map PlainEntry.template))
    (hentries : entries ≠ [])
    (hdistinct : (entries.map PlainEntry.keyword).Nodup)
    (hindex : ∀ e ∈ entries, e.slot.index < params.length)
    (htrimmed : ∀ p ∈ params, Text.trimBoth p.toList = p.toList)
    (hfirst : ∀ p ∈ params.head?, ':' ∉ p.toList) {keyed : List String}
    (hkeyed : keyed.Perm (entries.map fun e => e.keyedParam params)) :
    r.variant? token params s = r.variant? token keyed s ∧
      (r.variant? token params s).value =
        ((c.matchingRule? r.evaluator s).value.bind fun rule =>
          Table.find? rule.keyword (entries.map fun e => e.entry params)).orElse
            fun _ =>
            Table.find? c.defaultKey (entries.map fun e => e.entry params) := by
  have hpositional : bringsKeywords params = false := by
    cases params with
    | nil => rfl
    | cons p params => simpa [bringsKeywords] using hfirst p rfl
  have hbrings : bringsKeywords keyed = true := by
    cases keyed with
    | nil => exact absurd (List.map_eq_nil_iff.mp hkeyed.nil_eq.symm) hentries
    | cons k keyed =>
        obtain ⟨e, -, rfl⟩ := List.mem_map.mp (hkeyed.subset List.mem_cons_self)
        simp [bringsKeywords, PlainEntry.keyedParam]
  have hphrases : r.phrases? c token params s =
      pure (some (Table.ofList (entries.map fun e => e.entry params))) := by
    rw [phrases?, hpositional, hmapping]
    simp [fillAll?_templates hindex]
  have hphrases' : r.phrases? c token keyed s =
      pure (some (Table.ofList (keyed.filterMap keyed?))) := by
    rw [phrases?, if_pos hbrings]
  have hperm : (entries.map fun e => e.entry params).Perm
      (keyed.filterMap keyed?) := by
    rw [← filterMap_keyedParam hindex htrimmed]
    exact (hkeyed.filterMap keyed?).symm
  have hnodup : ((entries.map fun e => e.entry params).map Prod.fst).Nodup := by
    rw [List.map_map]
    exact hdistinct
  constructor
  · refine variant?_congr hcontext hphrases hphrases' fun keyword => ?_
    rw [Table.get?_ofList hnodup,
      Table.get?_ofList ((hperm.map Prod.fst).nodup hnodup),
      Table.find?_perm hnodup hperm]
  · rw [value_variant?_of_phrases? hcontext hphrases]
    simp only [Table.get?_ofList hnodup]

def femaleEntry : PlainEntry where
  keyword := "female"
  slot := .ofNat 1 (by simp)
  trimmed := by decide
  noColon := by simp
  keys_eq_nil := rfl

def maleEntry : PlainEntry where
  keyword := "male"
  slot := .ofNat 0 (by simp)
  trimmed := by decide
  noColon := by simp
  keys_eq_nil := rfl

/-- A context that tells two genders apart and maps two parameters to them. -/
def genderContext : Context where
  keyword := "gender"
  description := ""
  keys := ["female", "male"]
  defaultKey := "male"
  tokenExpression := none
  variableNames := ["@gender"]
  sources := ∅
  mapping :=
    some (.byArity
      [none, some ([femaleEntry, maleEntry].map PlainEntry.template)])
  rules :=
    [⟨"female", "", "", "(= @gender 'female')", none⟩,
      ⟨"male", "", "", "", none⟩]

def gendered : Rendering where
  data := Table.empty
  language := (⟨"en", "English", [genderContext], []⟩ : Language)
  decorator := Decorator.plain
  settings := Settings.standard
  options := Options.standard
  evaluator := Evaluator.standard default

/-- A phrase without its keyword may have a colon, as long as it is not the
first. -/
theorem variant?_keyed_gendered :
    let token : TokenName :=
      ⟨"{user:gender| he, her: she}", "user", "", ["gender"], []⟩
    let someone : Subject := .map ⟨[("gender", .str "female")]⟩
    gendered.variant? token ["he", "her: she"] someone =
        gendered.variant? token ["male: he", "female: her: she"] someone ∧
      (gendered.variant? token ["he", "her: she"] someone).value =
        some "her: she" := by
  intro token someone
  have hcontext : (gendered.contextOf? token).value = some genderContext := rfl
  have hindex : ∀ e ∈ [femaleEntry, maleEntry],
      e.slot.index < ["he", "her: she"].length := by
    simp [femaleEntry, maleEntry]
  have htrimmed :
      ∀ p ∈ ["he", "her: she"], Text.trimBoth p.toList = p.toList := by
    decide
  have hfirst : ∀ p ∈ ["he", "her: she"].head?, ':' ∉ p.toList := by
    simp
  have hkeyed : ["male: he", "female: her: she"].Perm
      ([femaleEntry, maleEntry].map fun e => e.keyedParam ["he", "her: she"]) :=
    List.Perm.swap _ _ []
  obtain ⟨hsame, hvalue⟩ :=
    variant?_keyed (s := someone) hcontext rfl (by simp) (by decide) hindex
    htrimmed hfirst hkeyed
  refine ⟨hsame, ?_⟩
  rw [hvalue]
  decide +kernel

end Rendering
end Phrasebook

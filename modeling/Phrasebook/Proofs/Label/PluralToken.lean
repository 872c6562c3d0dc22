import Phrasebook.Render
import Phrasebook.Proofs.Label.Filling
import Phrasebook.Proofs.Label.Phrases
import Phrasebook.Proofs.Label.Reading
import Phrasebook.Proofs.Number.Decimal
import Phrasebook.Proofs.Table.Entries

/-!
# A count with its phrase

A piped token that names its context and brings a phrase for each keyword shows
a count in words. The rule of the context that holds of the count decides on the
phrase, or else the default keyword does. With a double bar the count stands
before the phrase, and with a single bar it takes the place of the token's name
between number signs.
-/

namespace Phrasebook

open Written (Braced Unbraced)

/-! ## Phrases under keywords -/

/-- A phrase with its keyword, as a parameter of a piped token. -/
structure KeyedPhrase where
  keyword : String
  phrase : String
  isWord_keyword : IsWord keyword.toList
  phrase_ne_nil : phrase.toList ≠ []
  trimmed : Text.trimBoth phrase.toList = phrase.toList
  plain : ∀ c ∈ phrase.toList, c ∉ [',', '{', '}', '^', '|', '[']

namespace KeyedPhrase

variable (e : KeyedPhrase)

def text : String :=
  e.keyword ++ ": " ++ e.phrase

theorem toList_text :
    e.text.toList = e.keyword.toList ++ (':' :: ' ' :: e.phrase.toList) := by
  simp [text]

theorem keyed?_text : Rendering.keyed? e.text = some (e.keyword, e.phrase) :=
  Rendering.keyed?_of_trimmed
    (e.isWord_keyword.notMem (by decide)) e.isWord_keyword.trimBoth_eq
    e.trimmed

/-- A parameter begins with a word and ends with a trimmed phrase. -/
theorem trimBoth_text : Text.trimBoth e.text.toList = e.text.toList := by
  have hhead : Text.Stops Text.isBlank e.text.toList := by
    obtain ⟨c, cs, hkeyword⟩ := List.exists_cons_of_ne_nil e.isWord_keyword.1
    have hword : Unicode.isWord c = true :=
      e.isWord_keyword.2 c (by simp [hkeyword])
    rw [toList_text, hkeyword]
    exact Text.stops_cons.mpr (Label.isBlank_eq_false_of_isWord hword)
  have hlast : Text.Stops Text.isBlank e.text.toList.reverse := by
    have hphrase := (Text.stops_trimBoth e.phrase.toList).2
    rw [e.trimmed] at hphrase
    obtain ⟨c, cs, hreverse⟩ := List.exists_cons_of_ne_nil
      (List.reverse_ne_nil_iff.mpr e.phrase_ne_nil)
    rw [hreverse] at hphrase
    have htext : e.text.toList.reverse =
        c :: (cs ++ [' ', ':'] ++ e.keyword.toList.reverse) := by
      simp [toList_text, hreverse]
    rw [htext]
    exact Text.stops_cons.mpr (Text.stops_cons.mp hphrase)
  exact Text.trimBoth_eq_self hhead hlast

theorem notMem_text {c : Char} (hword : Unicode.isWord c = false)
    (hmark : c ∉ [':', ' '])
    (hphrase : c ∉ e.phrase.toList) : c ∉ e.text.toList := by
  obtain ⟨hcolon, hspace⟩ : c ≠ ':' ∧ c ≠ ' ' := by simpa using hmark
  rw [toList_text]
  simp [e.isWord_keyword.notMem hword, hcolon, hspace, hphrase]

end KeyedPhrase

/-! ## The token -/

/-- A piped token that names its context and has phrases with distinct
keywords. -/
structure PluralToken where
  name : String
  context : String
  separator : Separator
  entries : List KeyedPhrase
  isWord_name : IsWord name.toList
  noLowLine : name.toList.head? ≠ some '_'
  isWord_context : IsWord context.toList
  entries_ne_nil : entries ≠ []
  nodup_keywords : (entries.map KeyedPhrase.keyword).Nodup

namespace PluralToken

variable (t : PluralToken)

def text : String :=
  "\x7b" ++ t.name ++ ":" ++ t.context ++ String.ofList t.separator.chars ++
    " " ++
    Text.join ", " (t.entries.map KeyedPhrase.text) ++ "\x7d"

def phrase? (keyword : String) : Option String :=
  Table.find? keyword (t.entries.map fun e => (e.keyword, e.phrase))

/-- The phrase for the rule that holds, or else the one under the default
keyword. -/
def chosen? (c : Context) (rule : Option Rule) : Option String :=
  (rule.bind fun rule => t.phrase? rule.keyword).orElse fun _ =>
    t.phrase? c.defaultKey

/-- A count with its phrase. -/
def shown (n : Int64) (phrase : String) : String :=
  match t.separator with
  | .display => Integer.text n ++ " " ++ phrase
  | .substitute => Text.replace phrase ("#" ++ t.name ++ "#") (Integer.text n)

theorem notMem_text_of_mem_entries {e : KeyedPhrase} {c : Char}
    (hc : c ∈ [',', '{', '}', '^', '|', '[']) : c ∉ e.text.toList := by
  have hclass : ∀ d ∈ [',', '{', '}', '^', '|', '['],
      Unicode.isWord d = false ∧ d ∉ [':', ' '] := by
    simp [Unicode.isWord, Unicode.isAsciiWord]
  obtain ⟨hword, hmark⟩ := hclass c hc
  exact e.notMem_text hword hmark fun hmem => e.plain c hmem hc

def form : PipedForm where
  short := t.name.toList
  contexts := [t.context.toList]
  cases := []
  isWord_short := t.isWord_name
  isWord_contexts := by simpa using t.isWord_context
  isWord_cases := by simp
  separator := t.separator
  params := t.entries.map fun e => e.text.toList
  noLowLine := t.noLowLine
  params_ne_nil := by simp [KeyedPhrase.toList_text]
  params_trimmed := by simp [KeyedPhrase.trimBoth_text]
  params_plain := by
    intro p hp c hc hplain
    obtain ⟨e, -, rfl⟩ := List.mem_map.mp hp
    exact notMem_text_of_mem_entries (by simp at hplain ⊢; tauto) hc

theorem toList_text : t.text.toList = t.form.chars := by
  simp [text, form, PipedForm.chars, PipedForm.body, PipedForm.paramChars,
    Declaration.chars, keyChars, Text.toList_join, Function.comp_def]

def tokenName (label : String) : TokenName where
  full := t.text
  short := t.name
  label
  contextKeys := [t.context]
  caseKeys := []

theorem ofPiped_text (label : String) :
    Token.ofPiped label t.text =
      .piped (t.tokenName label) t.separator
        (t.entries.map KeyedPhrase.text) := by
  have htext : t.text = String.ofList t.form.chars := by
    rw [← toList_text, String.ofList_toList]
  have hparams :
      t.form.params.map String.ofList = t.entries.map KeyedPhrase.text := by
    simp [form]
  rw [htext, t.form.ofPiped_chars, hparams, tokenName, htext]
  simp [form, TokenName.firstOnly]

/-! ## The phrase -/

theorem phrases_of_params :
    (t.entries.map KeyedPhrase.text).filterMap Rendering.keyed? =
      t.entries.map fun e => (e.keyword, e.phrase) := by
  rw [List.filterMap_map]
  have hkeyed : Rendering.keyed? ∘ KeyedPhrase.text =
      some ∘ fun e => (e.keyword, e.phrase) :=
    funext KeyedPhrase.keyed?_text
  rw [hkeyed, List.filterMap_eq_map]

theorem bringsKeywords_params :
    Rendering.bringsKeywords (t.entries.map KeyedPhrase.text) = true := by
  obtain ⟨e, es, hentries⟩ := List.exists_cons_of_ne_nil t.entries_ne_nil
  rw [hentries]
  simp [Rendering.bringsKeywords, KeyedPhrase.toList_text]

/-- As the keywords are distinct, the table has each phrase under its
keyword. -/
theorem get?_ofList (keyword : String) :
    (Table.ofList (t.entries.map fun e => (e.keyword, e.phrase))).get? keyword =
      t.phrase? keyword := by
  refine Table.get?_ofList ?_ keyword
  rw [List.map_map]
  exact t.nodup_keywords

theorem value_variant? {r : Rendering} {c : Context}
    (hcontext : r.language.context? t.context = some c) (label : String)
    (s : Subject) :
    (r.variant? (t.tokenName label) (t.entries.map KeyedPhrase.text) s).value =
      t.chosen? c (c.matchingRule? r.evaluator s).value := by
  have hcontextOf : (r.contextOf? (t.tokenName label)).value = some c :=
    hcontext
  have hphrases :
      r.phrases? c (t.tokenName label) (t.entries.map KeyedPhrase.text) s =
      pure
        (some (Table.ofList
          (t.entries.map fun e => (e.keyword, e.phrase)))) := by
    rw [Rendering.phrases?, if_pos t.bringsKeywords_params, t.phrases_of_params]
  rw [Rendering.value_variant?_of_phrases? hcontextOf hphrases]
  simp only [t.get?_ofList, chosen?]

/-! ## The rendered label -/

section Rendered

variable {r : Rendering} {c : Context} {n : Int64} {before after : List Char}

theorem spliceValue?_eq_shown (phrase : String) :
    Rendering.spliceValue? t.separator t.name (some (Integer.text n)) phrase =
      some (t.shown n phrase) := by
  unfold Rendering.spliceValue? shown
  cases t.separator with
  | display => rfl
  | substitute =>
      dsimp only
      by_cases hmark : Text.contains phrase ("#" ++ t.name ++ "#") = true
      · rw [if_pos hmark, Option.map_some]
      · have hsame :
            Text.replace phrase ("#" ++ t.name ++ "#") (Integer.text n) =
              phrase := by
          have hinfix : ¬ ("#" ++ t.name ++ "#").toList <:+: phrase.toList :=
            fun h => hmark (Text.hasPart_iff.mpr h)
          rw [Text.replace, Text.replaceChars_of_not_isInfix hinfix,
            String.ofList_toList]
        rw [if_neg hmark, hsame]

theorem value_pipedValue? (hcontext : r.language.context? t.context = some c)
    (hdata : r.data.get? t.name = some (.raw (.value (.int n))))
    (label : String) :
    (r.pipedValue? (t.tokenName label) t.separator
      (t.entries.map KeyedPhrase.text)).value =
      (t.chosen? c (c.matchingRule? r.evaluator (.value (.int n))).value).map
        (t.shown n) := by
  have hdata' : r.data.get? (t.tokenName label).short =
      some (.raw (.value (.int n))) := hdata
  have htext : (TokenData.raw (.value (.int n))).text? =
      some (Integer.text n) := rfl
  simp only [Rendering.pipedValue?, hdata', TokenData.subject?,
    Logged.value_bind, Logged.value_pure, t.value_variant? hcontext, htext]
  cases t.chosen? c (c.matchingRule? r.evaluator (.value (.int n))).value with
  | none => rfl
  | some phrase => exact t.spliceValue?_eq_shown phrase

theorem value_replacement? (hdecorator : r.decorator = Decorator.plain)
    (hoptions : r.options = Options.standard)
    (hcontext : r.language.context? t.context = some c)
    (hdata : r.data.get? t.name = some (.raw (.value (.int n))))
    (label s : String) :
    (r.replacement? (Token.ofPiped label t.text) s).value =
      (t.chosen? c (c.matchingRule? r.evaluator (.value (.int n))).value).map
        (t.shown n) := by
  have hallows :
      r.options.allows (Token.ofPiped label t.text).short = true := by
    rw [hoptions]
    rfl
  have hinflected :
      ∀ value, (r.inflected (Token.ofPiped label t.text) value).value =
        value := by
    intro value
    rw [Rendering.inflected, t.ofPiped_text]
    split <;> rfl
  have hvalue : (r.value? (Token.ofPiped label t.text)).value =
      (t.chosen? c (c.matchingRule? r.evaluator (.value (.int n))).value).map
        (t.shown n) := by
    rw [t.ofPiped_text]
    exact t.value_pipedValue? hcontext hdata label
  rw [Rendering.replacement?, if_pos hallows, Logged.value_bind, hvalue]
  cases t.chosen? c (c.matchingRule? r.evaluator (.value (.int n))).value with
  | none => rfl
  | some phrase =>
      rw [Option.map_some, Logged.value_bind, Logged.value_pure, hinflected,
        hdecorator]
      rfl

theorem value_fillTokens (hdecorator : r.decorator = Decorator.plain)
    (hoptions : r.options = Options.standard)
    (hcontext : r.language.context? t.context = some c)
    (hdata : r.data.get? t.name = some (.raw (.value (.int n))))
    (hbefore : Unbraced before) (hafter : Unbraced after) (label : String)
    (hlabel : label.toList = before ++ (t.form.chars ++ after)) :
    (r.fillTokens label).value =
      ((t.chosen? c (c.matchingRule? r.evaluator (.value (.int n))).value).map
        fun phrase =>
          String.ofList (before ++ ((t.shown n phrase).toList ++ after))).getD
            label := by
  have htext : String.ofList t.form.chars = t.text := by
    rw [← toList_text, String.ofList_toList]
  have htokens : Label.tokens label = [Token.ofPiped label t.text] := by
    rw [← htext]
    exact Label.tokens_single
      (t := t.form.written) rfl hbefore hafter label hlabel
  have hfull : (Token.ofPiped label t.text).full = t.text := rfl
  have hreplaced : ∀ new : String, Text.replace label t.text new =
      String.ofList (before ++ (new.toList ++ after)) := by
    intro new
    have hbraced : Braced t.text.toList := by
      rw [toList_text]
      exact t.form.braced_chars
    have hsegments :
        ∀ s ∈ [before, t.text.toList, after], Unbraced s ∨ Braced s := by
      simp [hbefore, hafter, hbraced]
    have hflatten :
        Text.replaceChars (before ++ (t.text.toList ++ after)) t.text.toList
        new.toList = before ++ (new.toList ++ after) := by
      simpa [Label.ne_of_unbraced_of_braced hbefore hbraced,
        Label.ne_of_unbraced_of_braced hafter hbraced] using
        Label.replaceChars_flatten hbraced hsegments new.toList
    rw [Text.replace, hlabel, ← toList_text, hflatten]
  rw [Rendering.fillTokens, htokens, Rendering.substituteAll, Logged.value_bind,
    Rendering.value_substitute r _ label label,
    t.value_replacement? hdecorator hoptions hcontext hdata, hfull,
    Option.map_map]
  simp only [Function.comp_def, hreplaced]
  rfl

/-- Without an opening bracket there is no markup to render. -/
theorem notMem_shown {phrase : String} (hphrase : '[' ∉ phrase.toList) :
    '[' ∉ (t.shown n phrase).toList := by
  have hdigits : '[' ∉ (Integer.text n).toList := by
    rw [Integer.text, String.toList_ofList]
    intro hmem
    rcases Integer.eq_minus_or_isDigit_of_mem_digits hmem with h | h
    · exact absurd h (by decide)
    · exact absurd h (by decide)
  unfold shown
  cases t.separator with
  | display => simp [hphrase, hdigits]
  | substitute =>
      dsimp only
      rw [Text.replace, String.toList_ofList]
      intro hmem
      rcases Text.mem_replaceFrom hmem with hmem | hmem
      · exact hphrase hmem
      · exact hdigits hmem

theorem notMem_of_phrase? {keyword phrase : String}
    (h : t.phrase? keyword = some phrase) :
    '[' ∉ phrase.toList := by
  obtain ⟨e, -, he⟩ := List.mem_map.mp (Table.mem_of_find? h)
  obtain ⟨-, rfl⟩ := Prod.mk.inj he
  exact fun hmem => e.plain '[' hmem (by simp)

theorem notMem_of_chosen? {rule : Option Rule} {phrase : String}
    (h : t.chosen? c rule = some phrase) : '[' ∉ phrase.toList := by
  unfold chosen? at h
  cases hlisted : rule.bind fun rule => t.phrase? rule.keyword with
  | none =>
      rw [hlisted] at h
      exact t.notMem_of_phrase? h
  | some phrase' =>
      rw [hlisted] at h
      obtain rfl : phrase' = phrase := by simpa using h
      obtain ⟨rule, -, hphrase⟩ := Option.bind_eq_some_iff.mp hlisted
      exact t.notMem_of_phrase? hphrase

theorem notMem_text : '[' ∉ t.text.toList := by
  have hparams : '[' ∉ t.form.paramChars := by
    intro hmem
    rcases Text.mem_intercalate hmem with hmark | ⟨p, hp, hmem⟩
    · exact absurd hmark (by decide)
    · obtain ⟨e, -, rfl⟩ := List.mem_map.mp hp
      exact notMem_text_of_mem_entries (by simp) hmem
  have hbody : '[' ∉ t.form.body :=
    t.form.notMem_body (by decide) (by decide) hparams
  rw [toList_text, PipedForm.chars]
  simp [hbody]

end Rendered

end PluralToken

namespace Rendering

variable {r : Rendering}

/-- A count in words. In a label without other tokens and without markup, a
piped token that names its context and brings phrases under distinct keywords is
shown with the phrase for the rule of the context that holds of the count, or
else for the default keyword. With neither of the two phrases the label stays as
it is. -/
theorem render_pluralToken (hdecorator : r.decorator = Decorator.plain)
    (hoptions : r.options = Options.standard) (t : PluralToken) {c : Context}
    (hcontext : r.language.context? t.context = some c) {n : Int64}
    (hdata : r.data.get? t.name = some (.raw (.value (.int n))))
    {before after : String}
    (hbefore : ∀ d ∈ before.toList, d ∉ ['{', '}', '[', ']'])
    (hafter : ∀ d ∈ after.toList, d ∉ ['{', '}', '[', ']']) :
    (r.render (before ++ t.text ++ after)).value =
      ((t.chosen? c (c.matchingRule? r.evaluator (.value (.int n))).value).map
        fun phrase => before ++ t.shown n phrase ++ after).getD
          (before ++ t.text ++ after) := by
  have hunbraced : ∀ s : String, (∀ d ∈ s.toList, d ∉ ['{', '}', '[', ']']) →
      Unbraced s.toList ∧ '[' ∉ s.toList := by
    intro s hs
    exact ⟨⟨fun h => hs _ h (by simp), fun h => hs _ h (by simp)⟩,
      fun h => hs _ h (by simp)⟩
  obtain ⟨hbraces, hbracket⟩ := hunbraced before hbefore
  obtain ⟨hbraces', hbracket'⟩ := hunbraced after hafter
  have hlabel : (before ++ t.text ++ after).toList =
      before.toList ++ (t.form.chars ++ after.toList) := by
    simp [← PluralToken.toList_text]
  have hopening : (before ++ t.text ++ after).toList.contains '{' = true := by
    rw [hlabel, PipedForm.chars]
    simp
  have hfilled :=
    t.value_fillTokens hdecorator hoptions hcontext hdata hbraces hbraces' _
      hlabel
  have hrender : ∀ filled : String, '[' ∉ filled.toList →
      (r.fillTokens (before ++ t.text ++ after)).value = filled →
        (r.render (before ++ t.text ++ after)).value = filled := by
    intro filled hfilled hvalue
    rw [render, if_pos hopening, Logged.value_bind, hvalue]
    simp [hfilled]
  cases hchosen :
    t.chosen? c (c.matchingRule? r.evaluator (.value (.int n))).value with
  | none =>
      rw [hchosen] at hfilled
      refine hrender _ ?_ hfilled
      simp [hbracket, hbracket', t.notMem_text]
  | some phrase =>
      rw [hchosen] at hfilled
      have hshown := t.notMem_shown (n := n) (t.notMem_of_chosen? hchosen)
      refine hrender _ ?_ (hfilled.trans ?_)
      · simp [hbracket, hbracket', hshown]
      · simp [String.append_assoc]

def messageToken : PluralToken where
  name := "count"
  context := "number"
  separator := .display
  entries := [
    { keyword := "one"
      phrase := "message"
      isWord_keyword := by simp [IsWord, Unicode.isWord, Unicode.isAsciiWord]
      phrase_ne_nil := by simp
      trimmed := by decide
      plain := by simp },
    { keyword := "other"
      phrase := "messages"
      isWord_keyword := by simp [IsWord, Unicode.isWord, Unicode.isAsciiWord]
      phrase_ne_nil := by simp
      trimmed := by decide
      plain := by simp }]
  isWord_name := by simp [IsWord, Unicode.isWord, Unicode.isAsciiWord]
  noLowLine := by simp
  isWord_context := by simp [IsWord, Unicode.isWord, Unicode.isAsciiWord]
  entries_ne_nil := by simp
  nodup_keywords := by simp

/-- A context that tells a single message from several. -/
def messageContext : Context :=
  ⟨"number", "", ["one", "other"], "other", none, ["@n"], ∅, none,
    [⟨"one", "", "", "(= 1 @n)", none⟩, ⟨"other", "", "", "", none⟩]⟩

def messages (n : Int64) : Rendering where
  data := ⟨[("count", .raw (.value (.int n)))]⟩
  language := (⟨"en", "English", [messageContext], []⟩ : Language)
  decorator := Decorator.plain
  settings := Settings.standard
  options := Options.standard
  evaluator := Evaluator.standard default

theorem render_messages :
    messageToken.text = "{count:number|| one: message, other: messages}" ∧
      ((messages 1).render ("You have " ++ messageToken.text ++ ".")).value =
        "You have 1 message." ∧
      ((messages 5).render ("You have " ++ messageToken.text ++ ".")).value =
        "You have 5 messages." := by
  have hrender : ∀ {n phrase}, messageToken.chosen? messageContext
      (messageContext.matchingRule? (messages n).evaluator
        (.value (.int n))).value = some phrase →
        ((messages n).render ("You have " ++ messageToken.text ++ ".")).value =
          "You have " ++ messageToken.shown n phrase ++ "." := by
    intro n phrase hchosen
    have hcontext :
        (messages n).language.context? messageToken.context =
        some messageContext := rfl
    have hdata : (messages n).data.get? messageToken.name =
        some (.raw (.value (.int n))) := rfl
    have hbefore : ∀ d ∈ "You have ".toList, d ∉ ['{', '}', '[', ']'] := by simp
    have hafter : ∀ d ∈ ".".toList, d ∉ ['{', '}', '[', ']'] := by simp
    rw [render_pluralToken rfl rfl messageToken hcontext hdata hbefore hafter,
      hchosen]
    rfl
  have hone : messageToken.chosen? messageContext
      (messageContext.matchingRule? (messages 1).evaluator
        (.value (.int 1))).value =
        some "message" := by
    decide +kernel
  have hfive : messageToken.chosen? messageContext
      (messageContext.matchingRule? (messages 5).evaluator
        (.value (.int 5))).value =
        some "messages" := by
    decide +kernel
  exact ⟨by decide, hrender hone, hrender hfive⟩

end Rendering
end Phrasebook

import Mathlib
import Phrasebook.Render
import Phrasebook.Proofs.Text.Splitting

/-!
# Restricted renderings

A rendering that may fill in only certain names looks up nothing but these and,
for a method token, the object in front of the first point of its name. So two
tables of data that agree on them give the same text, whatever else they hold,
and also the same journal.

The data is read in three places only: for the value of a token, for the subject
of its cases, and for the decoration of an element. Everything in between is the
same for any data.
-/

namespace Phrasebook

/-- The part of a name in front of the first point. -/
def ownerOf (name : String) : String :=
  String.ofList (name.toList.takeWhile (· != '.'))

/-- Two tables agree on each of the names and on the part of it in front of the
first point. -/
def Table.AgreeOn {α : Type} (names : List String) (t t' : Table α) : Prop :=
  ∀ name ∈ names, t.get? name = t'.get? name ∧
    t.get? (ownerOf name) = t'.get? (ownerOf name)

/-! ## The name of a token's subject -/

/-- The subject of a token goes by the token's short name or by the part in
front of its point. -/
theorem TokenKind.subjectName_token (k : TokenKind) (label full : String) :
    let t := k.token label full
    t.subjectName = t.short ∨ t.subjectName = ownerOf t.short := by
  cases k with
  | piped => exact .inl rfl
  | data => exact .inl rfl
  | method =>
      change (Token.ofMethod label full).subjectName =
        (Token.ofMethod label full).short ∨
        (Token.ofMethod label full).subjectName =
          ownerOf (Token.ofMethod label full).short
      unfold Token.ofMethod
      dsimp only
      split
      · rename_i owner member hcut
        exact .inr (congrArg String.ofList (Text.takeWhile_of_cut? hcut)).symm
      · exact .inl rfl

namespace Rendering

variable {r : Rendering} {data : Table TokenData}

def withData (r : Rendering) (data : Table TokenData) : Rendering :=
  { r with data := data }

/-! ## What is the same for any data -/

theorem inflect?_withData (s : Subject) (token : String)
    (keys : List (List Char)) (value : String) :
    (r.withData data).inflect? s token keys value =
      r.inflect? s token keys value := by
  induction keys generalizing value with
  | nil => rfl
  | cons key keys ih =>
      simp only [inflect?, ih]
      rfl

theorem inflect_withData (s : Option Subject) (token : String)
    (keys : List String) (value : String) :
    (r.withData data).inflect s token keys value =
      r.inflect s token keys value := by
  induction keys generalizing value with
  | nil => rfl
  | cons key keys ih =>
      simp only [inflect, ih]
      rfl

theorem fillParts?_withData (s : Subject) (token : String)
    (params : List String) (fs : List Fill) :
    (r.withData data).fillParts? s token params fs =
      r.fillParts? s token params fs := by
  induction fs with
  | nil => rfl
  | cons f fs ih =>
      cases f with
      | text c => simp only [fillParts?, ih]
      | placeholder digits keys =>
          simp only [fillParts?, parameter?, inflect?_withData, ih]

theorem fillAll?_withData (s : Subject) (token : String) (params : List String)
    (templates : Templates) :
    (r.withData data).fillAll? s token params templates =
      r.fillAll? s token params templates := by
  induction templates with
  | nil => rfl
  | cons entry templates ih =>
      simp only [fillAll?, fill?, fillParts?_withData, ih]

theorem variant?_withData (token : TokenName) (params : List String)
    (s : Subject) :
    (r.withData data).variant? token params s = r.variant? token params s := by
  have hcontext : (r.withData data).contextOf? token = r.contextOf? token := rfl
  have hphrases : ∀ c, (r.withData data).phrases? c token params s =
      r.phrases? c token params s := by
    intro c
    simp only [phrases?, fillAll?_withData]
  simp only [variant?, hcontext, hphrases]
  rfl

/-! ## Tokens -/

/-- The value of a token depends on the data of its subject alone. -/
theorem value?_withData {t : Token}
    (h : data.get? t.subjectName = r.data.get? t.subjectName) :
    (r.withData data).value? t = r.value? t := by
  cases t with
  | data name =>
      change pure ((r.withData data).dataValue? name) = pure (r.dataValue? name)
      have hget : (r.withData data).data.get? name.short =
          r.data.get? name.short := h
      rw [dataValue?, dataValue?, hget]
      rfl
  | method name object method =>
      change pure ((r.withData data).methodValue? object method) =
        pure (r.methodValue? object method)
      have hget : (r.withData data).data.get? object = r.data.get? object := h
      rw [methodValue?, methodValue?, hget]
  | piped name separator params =>
      change (r.withData data).pipedValue? name separator params =
        r.pipedValue? name separator params
      have hget : (r.withData data).data.get? name.short =
          r.data.get? name.short := h
      simp only [pipedValue?, hget, variant?_withData]

theorem inflected_withData {t : Token}
    (h : data.get? t.subjectName = r.data.get? t.subjectName) (value : String) :
    (r.withData data).inflected t value = r.inflected t value := by
  have hget : (r.withData data).data.get? t.subjectName =
      r.data.get? t.subjectName := h
  simp only [inflected, subject?, hget, inflect_withData]
  rfl

/-- A token that may not be filled in is not looked up at all. -/
theorem substitute_withData {t : Token}
    (h : r.options.allows t.short = true →
      data.get? t.subjectName = r.data.get? t.subjectName)
    (label : String) :
    (r.withData data).substitute t label = r.substitute t label := by
  have hreplacement :
      (r.withData data).replacement? t label = r.replacement? t label := by
    have hallows :
        (r.withData data).options.allows t.short = r.options.allows t.short :=
      rfl
    rw [replacement?, replacement?, hallows]
    split
    · rename_i hallowed
      simp only [value?_withData (h hallowed), inflected_withData (h hallowed)]
      rfl
    · rfl
  rw [substitute, substitute, hreplacement]

theorem substituteAll_withData {ts : List Token}
    (h : ∀ t ∈ ts, r.options.allows t.short = true →
      data.get? t.subjectName = r.data.get? t.subjectName)
    (label : String) :
    (r.withData data).substituteAll ts label = r.substituteAll ts label := by
  induction ts generalizing label with
  | nil => rfl
  | cons t ts ih =>
      obtain ⟨ht, hts⟩ := List.forall_mem_cons.mp h
      simp only [substituteAll, substitute_withData ht, ih hts]

/-! ## Markup -/

/-- An element that may not be filled in is not looked up at all. -/
theorem decorate_withData {name : String}
    (h : r.options.allows name = true → data.get? name = r.data.get? name)
    (label content : String) :
    (r.withData data).decorate label name content =
      r.decorate label name content := by
  have hallows :
      (r.withData data).options.allows name = r.options.allows name := rfl
  rw [decorate, decorate, hallows]
  split
  · rfl
  · rename_i hallowed
    have hget : (r.withData data).data.get? name = r.data.get? name := by
      refine h ?_
      simpa using (not_or.mp hallowed).2
    rw [hget]
    rfl

mutual

theorem nodeText_withData
    (h : ∀ name, r.options.allows name = true →
      data.get? name = r.data.get? name)
    (label : String) :
    (n : Markup.Node) → (r.withData data).nodeText label n = r.nodeText label n
  | .text _ => rfl
  | .element name children => by
    rw [nodeText, nodeText, nodeTexts_withData h label children]
    simp only [decorate_withData (h name)]

theorem nodeTexts_withData
    (h : ∀ name, r.options.allows name = true →
      data.get? name = r.data.get? name)
    (label : String) :
    (ns : List Markup.Node) → (r.withData data).nodeTexts label ns =
      r.nodeTexts label ns
  | [] => rfl
  | n :: ns => by
    rw [nodeTexts, nodeTexts, nodeText_withData h label n,
      nodeTexts_withData h label ns]

end

/-! ## The rendering -/

/-- A rendering that may fill in certain names only does the same with any data
that agrees with its own on these names and on the objects that they are about:
it yields the same text and notices the same on the way. -/
theorem render_withData {names : List String}
    (hallowed : r.options.allowed = some names)
    (h : data.AgreeOn names r.data) (label : String) :
    (r.withData data).render label = r.render label := by
  have hagree : ∀ name, r.options.allows name = true → name ∈ names := by
    intro name hname
    simpa [Options.allows, hallowed] using hname
  have htokens : (r.withData data).fillTokens label = r.fillTokens label := by
    refine substituteAll_withData ?_ label
    intro t ht hname
    obtain ⟨hshort, howner⟩ := h t.short (hagree _ hname)
    obtain ⟨e, -, rfl⟩ := List.mem_map.mp ht
    rcases TokenKind.subjectName_token e.1 label (String.ofList e.2)
      with hsubject | hsubject
    · rw [hsubject]
      exact hshort
    · rw [hsubject]
      exact howner
  have hmarkup :
      ∀ filled, (r.withData data).fillMarkup filled = r.fillMarkup filled :=
    fun filled => nodeText_withData
      (fun name hname => (h name (hagree name hname)).1) filled _
  simp only [render, htokens, hmarkup]
  rfl

/-- A rendering that may fill in the city of a user and nothing else. -/
def cityOnly : Rendering where
  data :=
    ⟨[("user", .raw (.map ⟨[("city", .str "Oslo")]⟩)),
      ("name", .raw (.value (.str "Ann")))]⟩
  language := Language.bare "en" "English"
  decorator := Decorator.plain
  settings := Settings.standard
  options := { Options.standard with allowed := some ["user.city"] }
  evaluator := Evaluator.standard default

/-- Neither another name nor a decoration shows. -/
theorem render_cityOnly :
    let label := "[b: {name}] of {user.city}"
    let data : Table TokenData :=
      ⟨[("name", .raw (.value (.str "Eve"))),
        ("b", .decoration (.template "<b>\x7b$0\x7d</b>")),
        ("user", .raw (.map ⟨[("city", .str "Oslo")]⟩))]⟩
    ((cityOnly.withData data).render label).value = "{name} of Oslo" ∧
      (cityOnly.render label).value = "{name} of Oslo" := by
  intro label data
  have hagree : data.AgreeOn ["user.city"] cityOnly.data := by
    intro name hname
    obtain rfl : name = "user.city" := by simpa using hname
    exact ⟨rfl, rfl⟩
  have hown : (cityOnly.render label).value = "{name} of Oslo" := by
    decide +kernel
  rw [render_withData rfl hagree label]
  exact ⟨hown, hown⟩

end Rendering
end Phrasebook

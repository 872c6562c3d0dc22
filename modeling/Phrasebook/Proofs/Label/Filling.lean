import Phrasebook.Label.Substitution
import Phrasebook.Proofs.Label.Extraction

/-!
# Filling in the tokens of a label

The tokens are filled in one after the other, each by a search through the label
as the earlier ones have left it. On a label made of pieces this comes to
filling in each piece on its own, provided no text that is put in has a brace: a
text without braces is never hit by a later search, and a token that stays is
hit by no search but its own.
-/

namespace Phrasebook

open Written (Braced Unbraced)

def Piece.fill (f : WrittenToken → List Char) : Piece → List Char
  | .plain x => x.chars
  | .token t => f t

namespace Rendering

variable {r : Rendering}

/-! ## Filling in one token -/

/-- What a token becomes that is filled in where its text stands alone. -/
def filled (r : Rendering) (label : String) (t : WrittenToken) : List Char :=
  (r.substitute (t.kind.token label (String.ofList t.chars))
    (String.ofList t.chars)).value.toList

theorem full_token (k : TokenKind) (label full : String) :
    (k.token label full).full = full := by
  cases k with
  | piped => rfl
  | method =>
      change (Token.ofMethod label full).full = full
      unfold Token.ofMethod
      dsimp only
      split <;> rfl
  | data => rfl

/-- The label is only used to say where a token could not be resolved. -/
theorem value_replacement? (r : Rendering) (t : Token) (s s' : String) :
    (r.replacement? t s).value = (r.replacement? t s').value := by
  unfold replacement?
  split
  · simp only [Logged.value_bind]
    split <;> rfl
  · rfl

theorem value_substitute (r : Rendering) (t : Token) (s s' : String) :
    (r.substitute t s).value =
      (((r.replacement? t s').value).map fun text =>
        Text.replace s t.full text).getD s := by
  rw [substitute, Logged.value_bind, value_replacement? r t s s']
  cases (r.replacement? t s').value with
  | none => rfl
  | some text => rfl

theorem replaceChars_self {t : List Char} (ht : Braced t) (new : List Char) :
    Text.replaceChars t t new = new := by
  have hsegments : ∀ s ∈ [t], Unbraced s ∨ Braced s := by simp [ht]
  simpa using Label.replaceChars_flatten ht hsegments new

/-- A token that is filled in replaces the segments equal to it by what it
becomes alone. -/
theorem substitute_flatten (label : String) (t : WrittenToken)
    {segments : List (List Char)}
    (hsegments : ∀ s ∈ segments, Unbraced s ∨ Braced s) :
    (r.substitute (t.kind.token label (String.ofList t.chars))
        (String.ofList segments.flatten)).value =
      String.ofList (segments.map fun s =>
        if s = t.chars then r.filled label t else s).flatten := by
  rw [filled, value_substitute r _ _ "", value_substitute r _ _ ""]
  cases (r.replacement? (t.kind.token label (String.ofList t.chars)) "").value
    with
  | none =>
      have hsame : ∀ s, (if s = t.chars then t.chars else s) = s := by
        intro s
        split
        · rename_i h
          exact h.symm
        · rfl
      simp [hsame]
  | some text =>
      simp [Text.replace, full_token, replaceChars_self t.braced,
        Label.replaceChars_flatten t.braced hsegments]

/-! ## Filling in all tokens -/

section FillAll

variable {ps : List Piece} {label : String} {done : List (List Char)}

/-- What a token becomes once the tokens in `done` are filled in. -/
def filledOf (r : Rendering) (label : String) (done : List (List Char))
    (t : WrittenToken) :
    List Char :=
  if t.chars ∈ done then r.filled label t else t.chars

/-- No token becomes a text with braces, unless it stays as it is. -/
def FillsUnbraced (r : Rendering) (label : String) (ps : List Piece) : Prop :=
  ∀ t, .token t ∈ ps → r.filled label t ≠ t.chars → Unbraced (r.filled label t)

theorem unbraced_or_braced_fill (h : r.FillsUnbraced label ps) {p : Piece}
    (hp : p ∈ ps) :
    Unbraced (p.fill (r.filledOf label done)) ∨
      Braced (p.fill (r.filledOf label done)) := by
  cases p with
  | plain x => exact .inl (Label.unbraced_plain x)
  | token t =>
      rw [Piece.fill, filledOf]
      split
      · by_cases hsame : r.filled label t = t.chars
        · rw [hsame]
          exact .inr t.braced
        · exact .inl (h t hp hsame)
      · exact .inr t.braced

/-- Filling in one more token changes the pieces equal to it and no others. -/
theorem fill_cons (h : r.FillsUnbraced label ps) {t : WrittenToken}
    (ht : t.chars ∉ done) {p : Piece} (hp : p ∈ ps) :
    (if p.fill (r.filledOf label done) = t.chars then r.filled label t
      else p.fill (r.filledOf label done)) =
        p.fill (r.filledOf label (t.chars :: done)) := by
  cases p with
  | plain x =>
      exact if_neg
        (Label.ne_of_unbraced_of_braced (Label.unbraced_plain x) t.braced)
  | token u =>
      by_cases hu : u.chars ∈ done
      · have hvalue :
            (Piece.token u).fill (r.filledOf label done) = r.filled label u :=
          if_pos hu
        have hne : r.filled label u ≠ t.chars := by
          intro heq
          by_cases hsame : r.filled label u = u.chars
          · rw [hsame] at heq
            exact ht (heq ▸ hu)
          · exact Label.ne_of_unbraced_of_braced (h u hp hsame) t.braced heq
        rw [hvalue, if_neg hne]
        exact (if_pos (List.mem_cons_of_mem _ hu)).symm
      · have hvalue : (Piece.token u).fill (r.filledOf label done) = u.chars :=
          if_neg hu
        rw [hvalue]
        by_cases heq : u.chars = t.chars
        · obtain rfl := Label.token_eq_of_chars_eq heq
          rw [if_pos rfl]
          exact (if_pos List.mem_cons_self).symm
        · rw [if_neg heq]
          exact (if_neg (by simp [heq, hu])).symm

/-- From any stage on, the tokens still to come are filled in at their own
places. -/
theorem substituteAll_flatten (h : r.FillsUnbraced label ps)
    {todo : List WrittenToken} (hdistinct : (todo.map WrittenToken.chars).Nodup)
    (hnew : ∀ t ∈ todo, t.chars ∉ done) :
    (r.substituteAll
      (todo.map fun t => t.kind.token label (String.ofList t.chars))
        (String.ofList
          (ps.map (Piece.fill (r.filledOf label done))).flatten)).value =
      String.ofList (ps.map (Piece.fill (r.filledOf label
        ((todo.map WrittenToken.chars).reverse ++ done)))).flatten := by
  -- The label at each stage is given by `done`, so the induction keeps it free.
  induction todo generalizing done with
  | nil => rfl
  | cons t todo ih =>
      obtain ⟨ht, hrest⟩ := List.forall_mem_cons.mp hnew
      obtain ⟨hnot, hdistinct⟩ := List.nodup_cons.mp hdistinct
      have hsegments : ∀ s ∈ ps.map (Piece.fill (r.filledOf label done)),
          Unbraced s ∨ Braced s := by
        intro s hs
        obtain ⟨p, hp, rfl⟩ := List.mem_map.mp hs
        exact unbraced_or_braced_fill h hp
      have hstep : ((ps.map (Piece.fill (r.filledOf label done))).map fun s =>
          if s = t.chars then r.filled label t else s) =
            ps.map (Piece.fill (r.filledOf label (t.chars :: done))) := by
        rw [List.map_map]
        exact List.map_congr_left fun p hp => fill_cons h ht hp
      have hlater : ∀ u ∈ todo, u.chars ∉ t.chars :: done := by
        intro u hu hmem
        rcases List.mem_cons.mp hmem with heq | hmem
        · exact hnot (heq ▸ List.mem_map_of_mem hu)
        · exact hrest u hu hmem
      rw [List.map_cons, substituteAll, Logged.value_bind,
        substitute_flatten label t hsegments, hstep, ih hdistinct hlater]
      simp

end FillAll

theorem fillTokens_ofPieces {ps : List Piece}
    (h : r.FillsUnbraced (Label.ofPieces ps) ps) :
    (r.fillTokens (Label.ofPieces ps)).value =
      String.ofList
        (ps.map (Piece.fill (r.filled (Label.ofPieces ps)))).flatten := by
  obtain ⟨ts, hdistinct, hall, htokens⟩ := Label.exists_tokens_ofPieces ps
  have hstart : ps.map (Piece.fill (r.filledOf (Label.ofPieces ps) [])) =
      ps.map Piece.chars := by
    refine List.map_congr_left ?_
    intro p _
    cases p with
    | plain x => rfl
    | token t => rw [Piece.fill, filledOf, if_neg List.not_mem_nil, Piece.chars]
  have hend : ps.map (Piece.fill (r.filledOf (Label.ofPieces ps)
      ((ts.map WrittenToken.chars).reverse ++ []))) =
        ps.map (Piece.fill (r.filled (Label.ofPieces ps))) := by
    refine List.map_congr_left ?_
    intro p hp
    cases p with
    | plain x => rfl
    | token t => exact if_pos (by simpa using hall t hp)
  have hnew : ∀ t ∈ ts, t.chars ∉ ([] : List (List Char)) :=
    fun _ _ => List.not_mem_nil
  have hfilled := substituteAll_flatten h hdistinct hnew
  rw [hstart, hend] at hfilled
  rw [fillTokens, htokens]
  exact hfilled

/-- Filling in tokens goes piece by piece. A label made of plain stretches and
of tokens in simple braces has exactly its own tokens, each once, kind by kind
and in the order in which they appear. If no token becomes a text with braces,
unless it stays as it is, then filling in the label puts in the place of each
token what the token becomes where its text stands alone. -/
theorem tokens_and_fillTokens (ps : List Piece) :
    (Label.tokens (Label.ofPieces ps) = TokenKind.all.flatMap fun k =>
      (Label.writtenOf k ps).eraseDups.map fun t =>
        k.token (Label.ofPieces ps) (String.ofList t)) ∧
    ∀ r : Rendering, r.FillsUnbraced (Label.ofPieces ps) ps →
      (r.fillTokens (Label.ofPieces ps)).value =
        String.ofList
          (ps.map (Piece.fill (r.filled (Label.ofPieces ps)))).flatten :=
  ⟨Label.tokens_ofPieces ps, fun _ h => fillTokens_ofPieces h⟩

/-! ## A greeting -/

def nameToken : WrittenToken where
  kind := .data
  chars := "{name}".toList
  written := (Written.mem_data_of_braced ⟨"name".toList, by simp⟩).mpr
    ⟨[], "name".toList, [], [], [], [], [], by simp,
      by simp [Unicode.isWord, Unicode.isAsciiWord], Written.nil_mem_keys,
      Written.nil_mem_keys,
      by simp⟩
  braced := ⟨"name".toList, by simp⟩

def cityToken : WrittenToken where
  kind := .method
  chars := "{user.city}".toList
  written :=
    Written.mem_method.mpr
      ⟨'u', "ser".toList, ".city".toList, [], [], by decide,
    by simp [Unicode.isWord, Unicode.isAsciiWord],
    Written.mem_key.mpr ⟨[], rfl, "city".toList,
      by simp [Unicode.isWord, Unicode.isAsciiWord], by simp⟩,
      Written.nil_mem_keys,
    Written.nil_mem_keys, by simp⟩
  braced := ⟨"user.city".toList, by simp⟩

def countToken : WrittenToken where
  kind := .piped
  chars := "{count|| item}".toList
  written :=
    Written.mem_piped.mpr
      ⟨'c', "ount".toList, [], [], [], "| item".toList, by decide,
    by simp [Unicode.isWord, Unicode.isAsciiWord], Written.nil_mem_keys,
    Written.nil_mem_keys,
    by simp, by simp [Label.isParamChar], by simp⟩
  braced := ⟨"count|| item".toList, by simp⟩

/-- A label with a token of each kind, one of them twice. -/
def greeting : List Piece :=
  [.plain ⟨"Dear ".toList, by simp⟩, .token nameToken,
    .plain ⟨" of ".toList, by simp⟩,
    .token cityToken, .plain ⟨", ".toList, by simp⟩, .token countToken,
    .plain ⟨". ".toList, by simp⟩, .token nameToken]

/-- A rendering with data for the name and the city, and none for the count. -/
def greetingRendering : Rendering where
  data :=
    ⟨[("name", .raw (.value (.str "Ann"))),
      ("user", .raw (.map ⟨[("city", .str "Oslo")]⟩))]⟩
  language := Language.bare "en" "English"
  decorator := Decorator.plain
  settings := Settings.standard
  options := Options.standard
  evaluator := Evaluator.standard default

theorem filled_nameToken :
    greetingRendering.filled (Label.ofPieces greeting) nameToken =
      "Ann".toList :=
  rfl

theorem filled_cityToken :
    greetingRendering.filled (Label.ofPieces greeting) cityToken =
      "Oslo".toList :=
  rfl

theorem filled_countToken :
    greetingRendering.filled (Label.ofPieces greeting) countToken =
      countToken.chars :=
  rfl

theorem fillTokens_greeting :
    Label.ofPieces greeting =
      "Dear {name} of {user.city}, {count|| item}. {name}" ∧
      (Label.tokens (Label.ofPieces greeting)).map Token.full =
        ["{count|| item}", "{user.city}", "{name}"] ∧
      (greetingRendering.fillTokens (Label.ofPieces greeting)).value =
        "Dear Ann of Oslo, {count|| item}. Ann" := by
  obtain ⟨htokens, hfilled⟩ := tokens_and_fillTokens greeting
  have hunbraced :
      greetingRendering.FillsUnbraced (Label.ofPieces greeting) greeting := by
    intro t ht hne
    have hcases : t = nameToken ∨ t = cityToken ∨ t = countToken := by
      simpa [greeting, or_comm, or_assoc, or_left_comm] using ht
    rcases hcases with rfl | rfl | rfl
    · rw [filled_nameToken]
      simp [Unbraced]
    · rw [filled_cityToken]
      simp [Unbraced]
    · exact absurd filled_countToken hne
  refine ⟨rfl, ?_, ?_⟩
  · rw [htokens]
    rfl
  · rw [hfilled greetingRendering hunbraced]
    rfl

end Rendering
end Phrasebook

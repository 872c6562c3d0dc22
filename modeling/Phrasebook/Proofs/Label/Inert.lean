import Phrasebook.Proofs.Label.Braces
import Phrasebook.Proofs.Label.Order

/-!
# Texts in which nothing is filled in

A text stays as it is when its tokens are filled in, if no token that can be
filled in is spelled in it. A token that is not filled in is such a text
itself, and so are texts put one behind the other as long as no token that is
filled in goes from one of them to the next.
-/

namespace Phrasebook

open Text (Stops)
open Written (Braced Unbraced ofKind)

/-! ## Which tokens are filled in -/

theorem TokenKind.short_token (k : TokenKind) (label label' full : String) :
    (k.token label full).short = (k.token label' full).short := by
  cases k with
  | piped => rfl
  | data => rfl
  | method =>
      change (Token.ofMethod label full).short =
        (Token.ofMethod label' full).short
      unfold Token.ofMethod TokenName.ofDeclaration
      dsimp only
      split <;> rfl

/-- The name of a data token is what stands within its braces. -/
theorem Token.short_ofData {front body back : List Char}
    (hfront : ∀ c ∈ front, c = '%' ∨ c = '{')
    (hback : ∀ c ∈ back, c = '}') (hne : body ≠ [])
    (hbody : ∀ c ∈ body, Written.IsInner c) (label : String) :
    (Token.ofData label
      (String.ofList (front ++ '{' :: (body ++ '}' :: back)))).short =
      (TokenName.ofDeclaration "" "" body).short := by
  have hbraces : ∀ c ∈ front ++ ['{'], (c == '%' || c == '{') = true := by
    simpa [or_comm] using hfront
  have hstops : Stops (fun c => c == '%' || c == '{')
      (body ++ '}' :: back) := by
    obtain ⟨c, body, rfl⟩ := List.exists_cons_of_ne_nil hne
    have hc := hbody c List.mem_cons_self
    rw [List.cons_append, Text.stops_cons]
    simpa using ⟨hc.ne (by decide), hc.ne (by decide)⟩
  have hfirst : (front ++ '{' :: (body ++ '}' :: back)).dropWhile
      (fun c => c == '%' || c == '{') = body ++ '}' :: back := by
    simpa using Text.dropWhile_append_of_stops hbraces hstops
  have hends : ∀ c ∈ ('}' :: back).reverse, (c == '}') = true := by
    simpa [or_imp, forall_and] using hback
  have hinside : Stops (· == '}') body.reverse := by
    apply Text.stops_of_forall
    intro c hc
    simpa using (hbody c (List.mem_reverse.mp hc)).ne (by decide)
  have hlast : ((body ++ '}' :: back).reverse.dropWhile (· == '}')).reverse =
      body := by
    rw [List.reverse_append, Text.dropWhile_append_of_stops hends hinside,
      List.reverse_reverse]
  change (TokenName.ofDeclaration _ label _).short = _
  rw [String.toList_ofList, hfirst, hlast]
  rfl

namespace Rendering

variable {r : Rendering} {k : TokenKind} {s t : List Char}

theorem value?_token (r : Rendering) (k : TokenKind)
    (label label' full : String) :
    r.value? (k.token label full) = r.value? (k.token label' full) := by
  cases k with
  | piped => rfl
  | data => rfl
  | method =>
      change r.value? (Token.ofMethod label full) =
        r.value? (Token.ofMethod label' full)
      unfold Token.ofMethod TokenName.ofDeclaration
      dsimp only
      split <;> rfl

/-- A token of the kind with the given text may be filled in and has a value. -/
def Fills (r : Rendering) (k : TokenKind) (s : List Char) : Prop :=
  r.options.allows (k.token "" (String.ofList s)).short = true ∧
    (r.value? (k.token "" (String.ofList s))).value.isSome = true

theorem isSome_value_replacement? (r : Rendering) (k : TokenKind)
    (s : List Char) (label label' : String) :
    ((r.replacement? (k.token label (String.ofList s)) label').value).isSome =
      true ↔
      r.Fills k s := by
  unfold Fills replacement?
  rw [k.short_token "" label, r.value?_token k "" label]
  split
  · rename_i hallowed
    rw [Logged.value_bind]
    cases (r.value? (k.token label (String.ofList s))).value with
    | none =>
        exact iff_of_false Bool.false_ne_true fun h => Bool.false_ne_true h.2
    | some value => exact iff_of_true rfl ⟨hallowed, rfl⟩
  · rename_i hallowed
    exact iff_of_false Bool.false_ne_true fun h => hallowed h.1

/-- No token that is filled in is spelled in the text. -/
def Inert (r : Rendering) (s : List Char) : Prop :=
  ∀ k, ∀ t ∈ ofKind k, r.Fills k t → ¬ t <:+: s

theorem value_substitute_of_inert {label : String} (h : r.Inert label.toList)
    {t : Token}
    (ht : t ∈ Label.tokens label) : (r.substitute t label).value = label := by
  obtain ⟨k, part, hkept, rfl⟩ := Label.mem_tokens.mp ht
  have hkind : part ∈ ofKind k :=
    Label.mem_ofKind_of_mem_claimed (Label.mem_of_mem_firstClaims hkept)
  have hfills := r.isSome_value_replacement? k part label ""
  rw [value_substitute r _ _ ""]
  cases hvalue :
    (r.replacement? (k.token label (String.ofList part)) "").value with
  | none => rfl
  | some text =>
      rw [hvalue] at hfills
      have hnone : ¬ part <:+: label.toList := h k part hkind (hfills.mp rfl)
      rw [Option.map_some, Option.getD_some, Text.replace, full_token,
        String.toList_ofList, Text.replaceChars_of_not_isInfix hnone,
        String.ofList_toList]

theorem value_fillTokens_of_inert {label : String} (h : r.Inert label.toList) :
    (r.fillTokens label).value = label := by
  have hall : ∀ ts : List Token,
      (∀ t ∈ ts, (r.substitute t label).value = label) →
      (r.substituteAll ts label).value = label := by
    intro ts hts
    induction ts with
    | nil => rfl
    | cons t ts ih =>
        obtain ⟨ht, hts⟩ := List.forall_mem_cons.mp hts
        rw [substituteAll, Logged.value_bind, ht, ih hts]
  exact hall _ fun t ht => value_substitute_of_inert h ht

/-! ## What is spelled in a text -/

theorem fills_data_congr
    (h : (Token.ofData "" (String.ofList s)).short =
      (Token.ofData "" (String.ofList t)).short) :
    r.Fills .data s ↔ r.Fills .data t := by
  have hfills : ∀ s, r.Fills .data s ↔
      r.options.allows (Token.ofData "" (String.ofList s)).short = true ∧
        (r.dataValue? (Token.ofData "" (String.ofList s)).name).isSome = true :=
    fun _ => Iff.rfl
  have hvalue : r.dataValue? (Token.ofData "" (String.ofList s)).name =
      r.dataValue? (Token.ofData "" (String.ofList t)).name := by
    unfold Token.short at h
    unfold dataValue?
    rw [h]
  rw [hfills, hfills, h, hvalue]

/-- A data token is filled in just if the one in simple braces inside it is. -/
theorem fills_data_iff {front body back : List Char}
    (hfront : ∀ c ∈ front, c = '%' ∨ c = '{')
    (hback : ∀ c ∈ back, c = '}')
    (hbody : body ≠ [] ∧ ∀ c ∈ body, Written.IsInner c) :
    r.Fills .data (front ++ '{' :: (body ++ '}' :: back)) ↔
      r.Fills .data ('{' :: (body ++ ['}'])) := by
  apply fills_data_congr
  have hcore :
      (Token.ofData "" (String.ofList ('{' :: (body ++ ['}'])))).short =
        (TokenName.ofDeclaration "" "" body).short :=
    Token.short_ofData (List.forall_mem_nil _)
      (List.forall_mem_nil _) hbody.1 hbody.2 ""
  exact (Token.short_ofData hfront hback hbody.1 hbody.2 "").trans hcore.symm

theorem inert_of_tight
    (h : ∀ k, ∀ t ∈ ofKind k, Written.Tight t → r.Fills k t → ¬ t <:+: s) :
    r.Inert s := by
  intro k t ht hfills hspelled
  cases k with
  | piped => exact h .piped t ht (Written.tight_of_mem_piped ht) hfills hspelled
  | method =>
      exact h .method t ht (Written.tight_of_mem_method ht) hfills hspelled
  | data =>
      obtain ⟨front, body, back, rfl, hfront, hback, hbody, hcore⟩ :=
        Written.exists_core_of_mem_data ht
      have hfills := (fills_data_iff hfront hback hbody).mp hfills
      obtain ⟨first, inner, rfl⟩ := List.exists_cons_of_ne_nil hbody.1
      have hinner :=
        Written.unbraced_of_isInner (List.forall_mem_cons.mp hbody.2).2
      refine h .data _ hcore ⟨first, inner, rfl, hinner⟩ hfills
        (.trans ?_ hspelled)
      exact ⟨front, back, by simp⟩

theorem Inert.of_isInfix (h : r.Inert t) (hst : s <:+: t) : r.Inert s :=
  fun k u hu hfills hspelled => h k u hu hfills (hspelled.trans hst)

/-- A token that is not filled in has none inside it that is, if it is a data
token or one in simple braces. -/
theorem inert_of_not_fills (ht : t ∈ ofKind k) (hform : Braced t ∨ k = .data)
    (h : ¬ r.Fills k t) : r.Inert t := by
  apply inert_of_tight
  intro l u hu htight hfills hspelled
  rcases hform with hbraced | rfl
  · obtain rfl := htight.eq_of_isInfix hbraced hspelled
    exact h (Written.kind_unique hbraced ht hu ▸ hfills)
  · obtain ⟨front, body, back, rfl, hfront, hback, hbody, -⟩ :=
      Written.exists_core_of_mem_data ht
    have hunbraced := Written.unbraced_of_isInner hbody.2
    have hchars : ∀ c ∈ u, Written.IsInner c ∨ c = '%' ∨ c = '{' ∨ c = '}' := by
      intro c hc
      have hmem := hspelled.subset hc
      simp only [List.mem_append, List.mem_cons] at hmem
      rcases hmem with hmem | rfl | hmem | rfl | hmem
      · exact .inr ((hfront c hmem).imp_right .inl)
      · simp
      · exact .inl (hbody.2 c hmem)
      · simp
      · exact .inr (.inr (.inr (hback c hmem)))
    -- Only a data token does without a bar and without a point.
    cases l with
    | piped =>
        obtain ⟨first, before, after, rfl, -⟩ := Written.marked_of_mem_piped hu
        exact absurd (hchars '|' (by simp)) (by decide)
    | method =>
        obtain ⟨first, before, after, rfl, -⟩ := Written.marked_of_mem_method hu
        exact absurd (hchars '.' (by simp)) (by decide)
    | data =>
        obtain ⟨front', body', back', rfl, hfront', hback', hbody', -⟩ :=
          Written.exists_core_of_mem_data hu
        have hcore : '{' :: (body' ++ ['}']) = '{' :: (body ++ ['}']) := by
          apply Written.eq_of_isInfix_of_braced
          · exact ⟨body', rfl, Written.unbraced_of_isInner hbody'.2⟩
          · intro hmem
            simpa using hfront '}' hmem
          · exact hunbraced
          · intro hmem
            simpa using hback '{' hmem
          · exact .trans ⟨front', back', by simp⟩ hspelled
        rw [fills_data_iff hfront' hback' hbody', hcore] at hfills
        exact h ((fills_data_iff hfront hback hbody).mpr hfills)

/-! ## Texts one behind the other -/

variable {ps : List (List Char)}

/-- A token that is filled in and is spelled in the text is spelled in one of
the pieces that the text is made of: none goes from one piece to the next. -/
def SpelledWithin (r : Rendering) (ps : List (List Char)) (s : List Char) :
    Prop :=
  ∀ k, ∀ t ∈ ofKind k, Written.Tight t → r.Fills k t → t <:+: s →
    ∃ p ∈ ps, t <:+: p

theorem SpelledWithin.inert (h : r.SpelledWithin ps s)
    (hps : ∀ p ∈ ps, r.Inert p) : r.Inert s := by
  apply inert_of_tight
  intro k t ht htight hfills hspelled
  obtain ⟨p, hp, hspelled⟩ := h k t ht htight hfills hspelled
  exact hps p hp k t ht hfills hspelled

theorem spelledWithin_of_tights
    (h : ∀ t ∈ Written.tights s, ∃ p ∈ ps, t <:+: p) : r.SpelledWithin ps s :=
  fun _ t _ htight _ hspelled => h t (htight.mem_tights hspelled)

end Rendering
end Phrasebook

import Phrasebook.Proofs.Label.Seams

/-!
# The order of filling in

Each token is filled in by a search for its text through the whole label as the
earlier tokens have left it. The order of the tokens matters where the text of
one begins inside the text of another, as `{name}` does in `%{name}`, or where a
text that is put in completes one that has only begun before it. Where a label
can be cut into stretches in which no token begins, unless the stretch is the
token's own text, the order does not matter, and each token is filled in at its
own stretches.
-/

namespace Phrasebook

open Written

/-! ## The tokens of a label -/

theorem Written.opened_of_mem_ofKind {k : TokenKind} {s : List Char}
    (h : s ∈ ofKind k) :
    Opened s := by
  cases k with
  | piped =>
      obtain ⟨first, name, ks, cs, g, params, -, -, -, -, -, -, rfl⟩ :=
        mem_piped.mp h
      exact ⟨_, .inl rfl⟩
  | method =>
      obtain ⟨first, name, k, ks, cs, -, -, -, -, -, rfl⟩ := mem_method.mp h
      exact ⟨_, .inl rfl⟩
  | data =>
      have hdata : s ∈ data := h
      simp only [data, mul_assoc, Language.mem_mul] at hdata
      obtain ⟨percent, hpercent, _, ⟨_, rfl, tail, -, rfl⟩, rfl⟩ := hdata
      rcases mem_optional.mp hpercent with rfl | rfl
      · exact ⟨tail, .inl rfl⟩
      · exact ⟨tail, .inr rfl⟩

namespace Label

theorem mem_ofKind_of_mem_found {k : TokenKind} {part s : List Char}
    (h : part ∈ k.found s) :
    part ∈ ofKind k := by
  obtain ⟨u, n, -, hscan, rfl⟩ := Text.exists_scan_of_mem_claimsFrom h
  obtain ⟨rest, hrest, rfl⟩ := Option.map_eq_some_iff.mp hscan
  obtain ⟨t, ht, rfl⟩ := behind?_sound hrest
  simpa using ht

theorem mem_ofKind_of_mem_claimed {kinds : List TokenKind} {s : List Char}
    {e : TokenKind × List Char} (h : e ∈ claimed kinds s) :
    e.2 ∈ ofKind e.1 := by
  induction kinds generalizing s with
  | nil => simp [claimed] at h
  | cons k kinds ih =>
      rw [claimed, List.mem_append, List.mem_map] at h
      rcases h with ⟨part, hpart, rfl⟩ | h
      · exact mem_ofKind_of_mem_found hpart
      · exact ih h

theorem opened_of_mem_tokens {label : String} {t : Token}
    (h : t ∈ tokens label) :
    Opened t.full.toList := by
  obtain ⟨k, part, hkept, rfl⟩ := mem_tokens.mp h
  rw [Rendering.full_token, String.toList_ofList]
  exact opened_of_mem_ofKind
    (mem_ofKind_of_mem_claimed (mem_of_mem_firstClaims hkept))

theorem nodup_full_tokens (label : String) :
    ((tokens label).map Token.full).Nodup := by
  have hfull : (tokens label).map Token.full =
      ((firstClaims [] (claimed TokenKind.all label.toList)).map Prod.snd).map
        String.ofList := by
    rw [tokens, List.map_map, List.map_map]
    exact List.map_congr_left fun e _ => Rendering.full_token e.1 label _
  rw [hfull]
  exact (nodup_firstClaims [] _).1.map fun a b h => String.ofList_injective h

end Label

/-! ## Filling in at the stretches -/

namespace Rendering

open Label (CutFor ClearOf)

variable {r : Rendering} {ts : List Token} {segments : List (List Char)}

/-- What a token becomes: the text that takes its place, or else its own. -/
def becomes (r : Rendering) (t : Token) : List Char :=
  (((r.replacement? t "").value).map String.toList).getD t.full.toList

/-- What a stretch becomes when each of the tokens is filled in: the token that
it is the text of makes it. -/
def inPlace (r : Rendering) (ts : List Token) (s : List Char) : List Char :=
  ((ts.find? fun t => t.full.toList == s).map r.becomes).getD s

theorem inPlace_of_mem (hdistinct : (ts.map Token.full).Nodup) {t : Token}
    (ht : t ∈ ts) :
    r.inPlace ts t.full.toList = r.becomes t := by
  cases hfind : ts.find? fun u => u.full.toList == t.full.toList with
  | none =>
      have hnone := List.find?_eq_none.mp hfind t ht
      simp at hnone
  | some u =>
      have hfull : u.full = t.full :=
        String.toList_inj.mp (by simpa using List.find?_some hfind)
      have hsame : u = t :=
        List.inj_on_of_nodup_map hdistinct
          (List.mem_of_find?_eq_some hfind) ht hfull
      rw [inPlace, hfind, hsame]
      rfl

theorem inPlace_of_notMem {s : List Char} (hs : ∀ t ∈ ts, t.full.toList ≠ s) :
    r.inPlace ts s = s := by
  have hfind : (ts.find? fun t => t.full.toList == s) = none :=
    List.find?_eq_none.mpr fun t ht => by simpa only [beq_iff_eq] using hs t ht
  rw [inPlace, hfind]
  rfl

theorem inPlace_perm {ts' : List Token} (h : ts.Perm ts')
    (hdistinct : (ts.map Token.full).Nodup)
    (s : List Char) : r.inPlace ts s = r.inPlace ts' s := by
  have hdistinct' : (ts'.map Token.full).Nodup :=
    (h.map Token.full).nodup_iff.mp hdistinct
  by_cases hs : ∃ t ∈ ts, t.full.toList = s
  · obtain ⟨t, ht, rfl⟩ := hs
    rw [inPlace_of_mem hdistinct ht,
      inPlace_of_mem hdistinct' (h.mem_iff.mp ht)]
  · have hnone : ∀ t ∈ ts, t.full.toList ≠ s := by simpa using hs
    rw [inPlace_of_notMem hnone,
      inPlace_of_notMem fun t ht => hnone t (h.mem_iff.mpr ht)]

/-- One token filled in changes the stretches that are its text, and no
others. -/
theorem substitute_of_foundIn {t : Token} (hne : t.full.toList ≠ [])
    (h : Label.FoundIn t.full.toList segments) :
    (r.substitute t (String.ofList segments.flatten)).value =
      String.ofList (segments.map fun s =>
        if s = t.full.toList then r.becomes t else s).flatten := by
  rw [value_substitute r t _ "", ← Label.replaceChars_of_foundIn hne h, becomes]
  cases (r.replacement? t "").value with
  | none =>
      exact congrArg String.ofList (Text.replaceChars_same hne _).symm
  | some text => simp [Text.replace]

/-- No text that is put in for a token has an opening brace. -/
def PutsInNoBrace (r : Rendering) (ts : List Token) : Prop :=
  ∀ t ∈ ts, ∀ text, (r.replacement? t "").value = some text → '{' ∉ text.toList

theorem becomes_of_putsInNoBrace {t : Token} (h : r.PutsInNoBrace ts)
    (ht : t ∈ ts) :
    '{' ∉ r.becomes t ∨ r.becomes t = t.full.toList := by
  rw [becomes]
  cases hvalue : (r.replacement? t "").value with
  | none => exact .inr rfl
  | some text => exact .inl (h t ht text hvalue)

/-- The tokens filled in one after the other change each stretch on its own. -/
theorem substituteAll_of_cutFor (hopened : ∀ t ∈ ts, Opened t.full.toList)
    (hdistinct : (ts.map Token.full).Nodup) (hvalues : r.PutsInNoBrace ts)
    (hcut : ∀ t ∈ ts, CutFor segments t.full.toList) :
    (r.substituteAll ts (String.ofList segments.flatten)).value =
      String.ofList (segments.flatMap (r.inPlace ts)) := by
  -- The induction keeps the stretches free: what the first token leaves is cut
  -- for the others.
  induction ts generalizing segments with
  | nil =>
      have hstays : r.inPlace [] = id := rfl
      rw [hstays, List.flatMap_id]
      rfl
  | cons t ts ih =>
      obtain ⟨ht, hopened⟩ := List.forall_mem_cons.mp hopened
      obtain ⟨hnew, hdistinct⟩ := List.nodup_cons.mp hdistinct
      obtain ⟨hcut, hlater⟩ := List.forall_mem_cons.mp hcut
      have hother : ∀ u ∈ ts, u.full.toList ≠ t.full.toList := by
        intro u hu heq
        exact hnew (String.toList_inj.mp heq ▸ List.mem_map_of_mem hu)
      have hbecomes := becomes_of_putsInNoBrace hvalues List.mem_cons_self
      have hleft : ∀ u ∈ ts, CutFor (segments.map fun s =>
          if s = t.full.toList then r.becomes t else s) u.full.toList := by
        intro u hu s hs
        obtain ⟨s, hmem, rfl⟩ := List.mem_map.mp hs
        split
        · rename_i hs
          rcases hbecomes with hfree | hsame
          · exact .inr (Label.clearOf_of_notMem (hopened u hu) hfree)
          · rw [hsame, ← hs]
            exact hlater u hu s hmem
        · exact hlater u hu s hmem
      have hdone : r.inPlace ts (r.becomes t) = r.becomes t := by
        refine inPlace_of_notMem fun u hu heq => ?_
        rcases hbecomes with hfree | hsame
        · obtain ⟨rest, hrest | hrest⟩ := hopened u hu
          · exact hfree (by simp [← heq, hrest])
          · exact hfree (by simp [← heq, hrest])
        · exact hother u hu (heq.trans hsame)
      have hstep : ∀ s,
          r.inPlace ts (if s = t.full.toList then r.becomes t else s) =
            r.inPlace (t :: ts) s := by
        intro s
        by_cases hs : s = t.full.toList
        · rw [if_pos hs, hdone, inPlace, List.find?_cons_of_pos (by simp [hs])]
          rfl
        · rw [if_neg hs, inPlace, inPlace,
            List.find?_cons_of_neg (by simpa using Ne.symm hs)]
      rw [substituteAll, Logged.value_bind,
        substitute_of_foundIn ht.ne_nil (hcut.foundIn ht),
        ih hopened hdistinct
          (fun u hu => hvalues u (List.mem_cons_of_mem t hu)) hleft,
        List.flatMap_map]
      simp only [hstep]

/-- The order in which the tokens of a label are filled in does not matter, and
each is filled in at its own stretches. The label must be cut into stretches in
which no token begins, unless the stretch is the token's own text, and no text
that is put in may have an opening brace. -/
theorem substituteAll_perm {label : String}
    (hlabel : segments.flatten = label.toList)
    (hcut : ∀ t ∈ Label.tokens label, CutFor segments t.full.toList)
    (hvalues : r.PutsInNoBrace (Label.tokens label)) {order : List Token}
    (horder : order.Perm (Label.tokens label)) :
    (r.substituteAll order label).value = (r.fillTokens label).value ∧
      (r.substituteAll order label).value =
        String.ofList (segments.flatMap (r.inPlace (Label.tokens label))) := by
  have hany : ∀ {ts : List Token}, ts.Perm (Label.tokens label) →
      (r.substituteAll ts label).value =
        String.ofList (segments.flatMap (r.inPlace (Label.tokens label))) := by
    intro ts hperm
    have hdistinct : (ts.map Token.full).Nodup :=
      (hperm.map Token.full).nodup_iff.mpr (Label.nodup_full_tokens label)
    have hopened : ∀ t ∈ ts, Opened t.full.toList :=
      fun t ht => Label.opened_of_mem_tokens (hperm.mem_iff.mp ht)
    have hfilled := substituteAll_of_cutFor hopened hdistinct
      (fun t ht => hvalues t (hperm.mem_iff.mp ht)) fun t ht =>
        hcut t (hperm.mem_iff.mp ht)
    rw [hlabel, String.ofList_toList] at hfilled
    rw [hfilled, funext (inPlace_perm hperm hdistinct)]
  exact ⟨(hany horder).trans (hany (.refl _)).symm, hany horder⟩

/-- A percent sign that stands alone does no harm to a token that has one. -/
theorem substituteAll_reverse_city :
    let label := "%{name} of {user.city}, 5%"
    let order := (Label.tokens label).reverse
    (greetingRendering.substituteAll order label).value =
        (greetingRendering.fillTokens label).value ∧
      (greetingRendering.substituteAll order label).value =
        "Ann of Oslo, 5%" := by
  intro label order
  have hlabel :
      ["%{name}".toList, " of ".toList, "{user.city}".toList,
        ", 5%".toList].flatten =
      label.toList := by decide +kernel
  have hcut : ∀ t ∈ Label.tokens label,
      CutFor ["%{name}".toList, " of ".toList, "{user.city}".toList,
        ", 5%".toList]
        t.full.toList := by
    unfold CutFor
    decide +kernel
  have hvalues : greetingRendering.PutsInNoBrace (Label.tokens label) := by
    unfold PutsInNoBrace
    decide +kernel
  obtain ⟨hsame, hvalue⟩ :=
    substituteAll_perm hlabel hcut hvalues (List.reverse_perm _)
  refine ⟨hsame, hvalue.trans ?_⟩
  decide +kernel

/-- The text of the token `{name}` stands in `%{name}`. Where `{name}` is filled
in first, the percent sign of the other token stays in the text. -/
theorem name_order_matters :
    let label := "{name} %{name}"
    let order := (Label.tokens label).reverse
    order.Perm (Label.tokens label) ∧
      (∀ t ∈ Label.tokens label,
        (greetingRendering.replacement? t label).value = some "Ann") ∧
      (greetingRendering.fillTokens label).value = "Ann %Ann" ∧
      (greetingRendering.substituteAll order label).value = "Ann Ann" := by
  intro label order
  exact ⟨List.reverse_perm _, by decide +kernel, by decide +kernel, by
    decide +kernel⟩

end Rendering
end Phrasebook

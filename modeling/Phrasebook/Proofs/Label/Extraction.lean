import Phrasebook.Proofs.Label.Pieces

/-!
# Finding the tokens of a label

The scanners run one kind after the other, each over what is left when the
tokens of the earlier kinds are taken out. On a label made of pieces nothing is
lost on the way and nothing is made up: each kind claims its own tokens in the
order in which they appear, and what is left are the pieces of the later kinds.
-/

namespace Phrasebook
namespace Label

open Text (Stops stops_cons)
open Written (Braced Unbraced Before ofKind)

variable {ps : List Piece} {k : TokenKind}

/-! ## One kind -/

theorem stops_close_charsOf (ps : List Piece) :
    Stops (· == '}') (charsOf ps) := by
  induction ps with
  | nil => exact Text.stops_nil
  | cons p ps ih =>
      have hp : Stops (· == '}') p.chars := by
        cases p with
        | plain x =>
            refine Text.stops_of_forall ?_
            intro c hc
            simpa using (x.plain c hc).2.1
        | token t =>
            obtain ⟨inner, ht, -⟩ := t.braced
            rw [Piece.chars, ht]
            exact stops_cons.mpr (by decide)
      exact hp.append ih

theorem extent?_eq_none {c : Char} {s : List Char} (hc : c ≠ '{')
    (hpercent : k = .data → c ≠ '%') :
    extent? k.behind? (c :: s) = none := by
  rw [extent?, behind?_cons_eq_none hc hpercent, Option.map_none]

theorem found_plain_append (x : PlainText) (rest : List Char) :
    k.found (x.chars ++ rest) = k.found rest := by
  refine Text.claims_append_of_none ?_
  intro c hc tail
  exact extent?_eq_none (x.plain c hc).1 fun _ => (x.plain c hc).2.2

theorem found_token_append (t : WrittenToken) {rest : List Char}
    (hrest : Stops (· == '}') rest) :
    t.kind.found (t.chars ++ rest) = t.chars :: t.kind.found rest := by
  have hscan := behind?_append_of_mem t.written t.braced hrest
  have hne : t.chars ≠ [] := by
    obtain ⟨inner, ht, -⟩ := t.braced
    simp [ht]
  refine Text.claims_append_of_some hne ?_
  rw [extent?, hscan, Option.map_some, List.length_append, Nat.add_sub_cancel]

/-- The tokens of later kinds are passed over, character by character. -/
theorem found_later_append {t : WrittenToken} (h : Before k t.kind)
    (rest : List Char) :
    k.found (t.chars ++ rest) = k.found rest := by
  have hscan : k.behind? (t.chars ++ rest) = none :=
    behind?_append_of_before h t.written t.braced
  obtain ⟨inner, ht, -⟩ := t.braced
  have hhead := t.braced
  have hkind : k ≠ .data := by
    rintro rfl
    cases h
  rw [ht, List.cons_append] at hscan ⊢
  rw [ht] at hhead
  have hnone : extent? k.behind? ('{' :: (inner ++ ['}'] ++ rest)) = none := by
    rw [extent?, hscan, Option.map_none]
  rw [TokenKind.found, Text.claims_cons_of_none hnone]
  refine Text.claims_append_of_none ?_
  intro c hc tail
  refine extent?_eq_none ?_ fun hdata => absurd hdata hkind
  rintro rfl
  exact hhead.head.2 hc

/-- The scanner of a kind claims the tokens of the kind, if no earlier ones are
left. -/
theorem found_charsOf (h : ∀ t, .token t ∈ ps → t.kind = k ∨ Before k t.kind) :
    k.found (charsOf ps) = writtenOf k ps := by
  induction ps with
  | nil => rfl
  | cons p ps ih =>
      have ih := ih fun t ht => h t (List.mem_cons_of_mem _ ht)
      have hcons : charsOf (p :: ps) = p.chars ++ charsOf ps := rfl
      rw [hcons]
      cases p with
      | plain x => exact (found_plain_append x _).trans ih
      | token t =>
          rcases h t (by simp) with rfl | hbefore
          · have hfound := found_token_append t (stops_close_charsOf ps)
            simpa [Piece.chars, Piece.isOf, writtenOf, ih] using hfound
          · have hne : t.kind ≠ k := by
              intro heq
              rw [heq] at hbefore
              cases hbefore
            have hfound := found_later_append hbefore (charsOf ps)
            simpa [Piece.chars, Piece.isOf, writtenOf, ih, hne] using hfound

/-! ## All kinds -/

theorem mem_writtenOf {s : List Char} :
    s ∈ writtenOf k ps ↔ ∃ t, .token t ∈ ps ∧ t.kind = k ∧ t.chars = s := by
  rw [writtenOf, List.mem_map]
  constructor
  · rintro ⟨p, hp, rfl⟩
    obtain ⟨hmem, hkind⟩ := List.mem_filter.mp hp
    cases p with
    | plain x => simp [Piece.isOf] at hkind
    | token t => exact ⟨t, hmem, by simpa [Piece.isOf] using hkind, rfl⟩
  · rintro ⟨t, ht, rfl, rfl⟩
    exact ⟨.token t, List.mem_filter.mpr ⟨ht, by simp [Piece.isOf]⟩, rfl⟩

theorem without_writtenOf (k : TokenKind) (ps : List Piece) :
    without (charsOf ps) (writtenOf k ps) =
      charsOf (ps.filter fun p => !p.isOf k) := by
  have hbraced : ∀ t ∈ writtenOf k ps, Braced t := by
    intro t ht
    obtain ⟨u, -, -, rfl⟩ := mem_writtenOf.mp ht
    exact u.braced
  rw [without_charsOf hbraced]
  congr 1
  refine List.filter_congr ?_
  intro p hp
  cases p with
  | plain x =>
      have hmem : x.chars ∉ writtenOf k ps := by
        intro hmem
        exact ne_of_unbraced_of_braced (unbraced_plain x) (hbraced _ hmem) rfl
      simp [Piece.isOf, Piece.chars, hmem]
  | token t =>
      have hiff : t.chars ∈ writtenOf k ps ↔ t.kind = k := by
        rw [mem_writtenOf]
        constructor
        · rintro ⟨u, -, rfl, hu⟩
          exact kind_eq_of_chars_eq hu.symm
        · intro hkind
          exact ⟨t, hp, hkind, rfl⟩
      simp [Piece.isOf, Piece.chars, hiff]

theorem writtenOf_filter_not {l : TokenKind} (h : k ≠ l) :
    writtenOf l (ps.filter fun p => !p.isOf k) = writtenOf l ps := by
  rw [writtenOf, writtenOf, List.filter_filter]
  congr 1
  refine List.filter_congr ?_
  intro p _
  cases p with
  | plain x => rfl
  | token t =>
      by_cases hl : t.kind = l
      · have hk : l ≠ k := h.symm
        simp [Piece.isOf, hl, hk]
      · simp [Piece.isOf, hl]

theorem before_irrefl : ¬ Before k k := by
  intro h
  cases h

/-- All kinds together claim all tokens, kind by kind. -/
theorem claimed_charsOf {kinds : List TokenKind}
    (hkinds : kinds.Pairwise Before) (h : ∀ t, .token t ∈ ps → t.kind ∈ kinds) :
    claimed kinds (charsOf ps) = kinds.flatMap fun k =>
      (writtenOf k ps).map fun t => (k, t) := by
  -- The later kinds look at fewer pieces, so the induction is over all lists of
  -- pieces.
  induction kinds generalizing ps with
  | nil => rfl
  | cons k kinds ih =>
      obtain ⟨hbefore, hrest⟩ := List.pairwise_cons.mp hkinds
      have hfound : k.found (charsOf ps) = writtenOf k ps := by
        refine found_charsOf ?_
        intro t ht
        rcases List.mem_cons.mp (h t ht) with hk | hk
        · exact .inl hk
        · exact .inr (hbefore _ hk)
      have hleft : ∀ t, .token t ∈ ps.filter (fun p => !p.isOf k) →
          t.kind ∈ kinds := by
        intro t ht
        obtain ⟨hmem, hkind⟩ := List.mem_filter.mp ht
        rcases List.mem_cons.mp (h t hmem) with hk | hk
        · simp [Piece.isOf, hk] at hkind
        · exact hk
      have hsame : ∀ l ∈ kinds, writtenOf l (ps.filter fun p => !p.isOf k) =
          writtenOf l ps := by
        intro l hl
        refine writtenOf_filter_not ?_
        rintro rfl
        exact before_irrefl (hbefore _ hl)
      rw [claimed, hfound, without_writtenOf, ih hrest hleft, List.flatMap_cons]
      congr 1
      refine List.flatMap_congr ?_
      intro l hl
      rw [hsame l hl]

/-! ## Each token once -/

section FirstClaims

variable {seen : List (List Char)} {l : List (TokenKind × List Char)}

/-- Of the texts seen before only those matter that come up again. -/
theorem firstClaims_congr {seen' : List (List Char)}
    (h : ∀ e ∈ l, e.2 ∈ seen ↔ e.2 ∈ seen') :
    firstClaims seen l = firstClaims seen' l := by
  induction l generalizing seen seen' with
  | nil => rfl
  | cons e l ih =>
      obtain ⟨he, hl⟩ := List.forall_mem_cons.mp h
      have hcons : ∀ e' ∈ l, e'.2 ∈ e.2 :: seen ↔ e'.2 ∈ e.2 :: seen' := by
        intro e' he'
        rw [List.mem_cons, List.mem_cons, hl e' he']
      rw [firstClaims, firstClaims, ih hl, ih hcons]
      simp only [List.contains_iff_mem, he]

/-- Of one kind the first of equal texts are kept, and if the texts behind are
different, what is kept of them does not depend on it. -/
theorem firstClaims_map_append (k : TokenKind) {ts : List (List Char)}
    (hl : ∀ e ∈ l, e.2 ∉ ts) :
    firstClaims seen (ts.map (fun t => (k, t)) ++ l) =
      ((ts.filter (· ∉ seen)).eraseDups.map fun t => (k, t)) ++
        firstClaims seen l := by
  induction ts generalizing seen with
  | nil => simp
  | cons t ts ih =>
      have hts : ∀ e ∈ l, e.2 ∉ ts :=
        fun e he hmem => hl e he (List.mem_cons_of_mem _ hmem)
      rw [List.map_cons, List.cons_append, firstClaims]
      by_cases ht : t ∈ seen
      · rw [if_pos (by simpa using ht), ih hts,
          List.filter_cons_of_neg (by simpa using ht)]
      · have hseen : firstClaims (t :: seen) l = firstClaims seen l := by
          refine firstClaims_congr ?_
          intro e he
          have hne : e.2 ≠ t := fun heq => hl e he (by simp [heq])
          simp [hne]
        have hfilter : ts.filter (· ∉ t :: seen) =
            (ts.filter (· ∉ seen)).filter fun u => !(u == t) := by
          rw [List.filter_filter]
          refine List.filter_congr ?_
          intro u _
          rw [Bool.eq_iff_iff]
          simp
        rw [if_neg (by simpa using ht), ih hts, hseen,
          List.filter_cons_of_pos (by simpa using ht),
          List.eraseDups_cons, hfilter, List.map_cons, List.cons_append]

theorem mem_of_mem_firstClaims {e : TokenKind × List Char}
    (h : e ∈ firstClaims seen l) :
    e ∈ l := by
  induction l generalizing seen with
  | nil => simp [firstClaims] at h
  | cons e' l ih =>
      rw [firstClaims] at h
      split at h
      · exact List.mem_cons_of_mem _ (ih h)
      · rcases List.mem_cons.mp h with rfl | h
        · exact List.mem_cons_self
        · exact List.mem_cons_of_mem _ (ih h)

theorem nodup_firstClaims (seen : List (List Char))
    (l : List (TokenKind × List Char)) :
    ((firstClaims seen l).map Prod.snd).Nodup ∧
      ∀ t ∈ (firstClaims seen l).map Prod.snd, t ∉ seen := by
  induction l generalizing seen with
  | nil => simp [firstClaims]
  | cons e l ih =>
      rw [firstClaims]
      split
      · exact ih seen
      · rename_i he
        obtain ⟨hnodup, hnew⟩ := ih (e.2 :: seen)
        rw [List.map_cons]
        refine ⟨List.nodup_cons.mpr
          ⟨fun hmem => hnew _ hmem List.mem_cons_self, hnodup⟩, ?_⟩
        intro t ht
        rcases List.mem_cons.mp ht with rfl | ht
        · simpa using he
        · exact fun hseen => hnew t ht (List.mem_cons_of_mem _ hseen)

theorem mem_firstClaims_or_seen {e : TokenKind × List Char} (h : e ∈ l) :
    e.2 ∈ seen ∨ e.2 ∈ (firstClaims seen l).map Prod.snd := by
  induction l generalizing seen with
  | nil => simp at h
  | cons e' l ih =>
      rw [firstClaims]
      split
      · rename_i he'
        rcases List.mem_cons.mp h with rfl | h
        · exact .inl (by simpa using he')
        · exact ih h
      · rcases List.mem_cons.mp h with rfl | h
        · exact .inr List.mem_cons_self
        · rcases ih h with hseen | hmem
          · rcases List.mem_cons.mp hseen with heq | hseen
            · exact .inr (by rw [heq]; exact List.mem_cons_self)
            · exact .inl hseen
          · exact .inr (List.mem_cons_of_mem _ hmem)

end FirstClaims

theorem firstClaims_flatMap {kinds : List TokenKind}
    (hkinds : kinds.Pairwise Before) :
    firstClaims []
      (kinds.flatMap fun k => (writtenOf k ps).map fun t => (k, t)) =
      kinds.flatMap fun k => (writtenOf k ps).eraseDups.map fun t =>
        (k, t) := by
  induction kinds with
  | nil => rfl
  | cons k kinds ih =>
      obtain ⟨hbefore, hrest⟩ := List.pairwise_cons.mp hkinds
      have hother : ∀ e ∈ kinds.flatMap fun k => (writtenOf k ps).map fun t =>
          (k, t),
          e.2 ∉ writtenOf k ps := by
        intro e he hmem
        obtain ⟨l, hl, he⟩ := List.mem_flatMap.mp he
        obtain ⟨s, hs, rfl⟩ := List.mem_map.mp he
        obtain ⟨t, -, rfl, ht⟩ := mem_writtenOf.mp hs
        obtain ⟨u, -, rfl, hu⟩ := mem_writtenOf.mp hmem
        have hkind := kind_eq_of_chars_eq (hu.trans ht.symm)
        exact before_irrefl (hkind ▸ hbefore _ hl)
      rw [List.flatMap_cons, List.flatMap_cons, firstClaims_map_append k hother,
        ih hrest]
      simp

theorem pairwise_before_all : TokenKind.all.Pairwise Before := by
  simp [TokenKind.all, Before.piped_method, Before.piped_data,
    Before.method_data]

theorem mem_all (k : TokenKind) : k ∈ TokenKind.all := by
  cases k <;> simp [TokenKind.all]

theorem tokens_ofPieces (ps : List Piece) :
    tokens (ofPieces ps) = TokenKind.all.flatMap fun k =>
      (writtenOf k ps).eraseDups.map fun t =>
        k.token (ofPieces ps) (String.ofList t) := by
  have hchars : (ofPieces ps).toList = charsOf ps := String.toList_ofList
  rw [tokens, hchars, claimed_charsOf pairwise_before_all fun t _ =>
    mem_all t.kind,
    firstClaims_flatMap pairwise_before_all, List.map_flatMap]
  simp only [List.map_map, Function.comp_def]

/-- The tokens that are found are tokens of the pieces, each is found, and none
twice. -/
theorem exists_tokens_ofPieces (ps : List Piece) : ∃ ts : List WrittenToken,
    (ts.map WrittenToken.chars).Nodup ∧
    (∀ t, .token t ∈ ps → t.chars ∈ ts.map WrittenToken.chars) ∧
      tokens (ofPieces ps) =
        ts.map fun t => t.kind.token (ofPieces ps) (String.ofList t.chars) := by
  have hclaimed :=
    claimed_charsOf pairwise_before_all fun t (_ : .token t ∈ ps) =>
      mem_all t.kind
  have hmem : ∀ e, e ∈ claimed TokenKind.all (charsOf ps) ↔
      ∃ t, .token t ∈ ps ∧ e = (t.kind, t.chars) := by
    intro e
    simp only [hclaimed, List.mem_flatMap, List.mem_map, mem_writtenOf]
    constructor
    · rintro ⟨k, -, s, ⟨t, ht, rfl, rfl⟩, rfl⟩
      exact ⟨t, ht, rfl⟩
    · rintro ⟨t, ht, rfl⟩
      exact ⟨t.kind, mem_all _, t.chars, ⟨t, ht, rfl, rfl⟩, rfl⟩
  obtain ⟨ts, hts⟩ : firstClaims [] (claimed TokenKind.all (charsOf ps)) ∈
      Set.range (List.map fun t : WrittenToken => (t.kind, t.chars)) := by
    rw [Set.range_list_map]
    intro e he
    obtain ⟨t, -, rfl⟩ := (hmem e).mp (mem_of_mem_firstClaims he)
    exact ⟨t, rfl⟩
  have hchars : ts.map WrittenToken.chars =
      (firstClaims [] (claimed TokenKind.all (charsOf ps))).map Prod.snd := by
    rw [← hts, List.map_map]
    rfl
  refine ⟨ts, ?_, ?_, ?_⟩
  · rw [hchars]
    exact (nodup_firstClaims _ _).1
  · intro t ht
    rw [hchars]
    refine (mem_firstClaims_or_seen ((hmem _).mpr ⟨t, ht, rfl⟩)).resolve_left ?_
    exact List.not_mem_nil
  · have hlabel : (ofPieces ps).toList = charsOf ps := String.toList_ofList
    rw [tokens, hlabel, ← hts, List.map_map]
    rfl

/-! ## A single token -/

theorem found_eq_nil {s : List Char} (h : '{' ∉ s) : k.found s = [] := by
  unfold TokenKind.found
  induction s with
  | nil => rfl
  | cons c s ih =>
      have hs : '{' ∉ s := fun hmem => h (List.mem_cons_of_mem c hmem)
      have hnone : extent? k.behind? (c :: s) = none := by
        rw [extent?, behind?_eq_none_of_notMem h, Option.map_none]
      rw [Text.claims_cons_of_none hnone, ih hs]

/-- A piped token between texts without braces is the only token of the label.
Percent signs may stand in front of it, for no other kind of token is looked for
before it is taken out. -/
theorem tokens_single {t : WrittenToken} (ht : t.kind = .piped)
    {before after : List Char}
    (hbefore : Unbraced before) (hafter : Unbraced after) (label : String)
    (hlabel : label.toList = before ++ (t.chars ++ after)) :
    tokens label = [Token.ofPiped label (String.ofList t.chars)] := by
  have hpiped : TokenKind.piped.found label.toList = [t.chars] := by
    have hskip : TokenKind.piped.found (before ++ (t.chars ++ after)) =
        TokenKind.piped.found (t.chars ++ after) := by
      refine Text.claims_append_of_none fun c hc tail => ?_
      refine extent?_eq_none ?_ (fun hdata => absurd hdata (by decide))
      rintro rfl
      exact hbefore.1 hc
    have hstops : Stops (· == '}') after :=
      Text.stops_of_forall
        fun c hc => by simpa using ne_of_mem_of_not_mem hc hafter.2
    have htoken := found_token_append t hstops
    rw [ht] at htoken
    rw [hlabel, hskip, htoken, found_eq_nil hafter.1]
  have hwithout : without label.toList [t.chars] = before ++ after := by
    have hsegments : ∀ s ∈ [before, t.chars, after], Unbraced s ∨ Braced s := by
      simp [hbefore, hafter, t.braced]
    have hreplaced := replaceChars_flatten t.braced hsegments []
    rw [hlabel]
    simpa [without, ne_of_unbraced_of_braced hbefore t.braced,
      ne_of_unbraced_of_braced hafter t.braced] using hreplaced
  have hnone : ∀ k : TokenKind, k.found (before ++ after) = [] := by
    intro k
    exact found_eq_nil (by simp [hbefore.1, hafter.1])
  have hnil : without (before ++ after) [] = before ++ after := rfl
  have hclaimed : claimed TokenKind.all label.toList = [(.piped, t.chars)] := by
    simp only [TokenKind.all, claimed, hpiped, hwithout, hnone, hnil]
    rfl
  rw [tokens, hclaimed]
  rfl

end Label
end Phrasebook

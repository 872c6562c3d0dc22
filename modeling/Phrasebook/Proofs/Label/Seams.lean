import Phrasebook.Proofs.Label.Filling
import Phrasebook.Proofs.Text.Cutting

/-!
# Tokens across a seam

Where the tokens of one kind are taken out of a label, the text on both sides
closes up before the next kind is looked for. So a token of a later kind may
reach across such a seam, and its text then stands nowhere in the label. Nothing
else is made up: the text of every token comes from a stretch of the label by
cuts, each of which takes out the text of a token of an earlier kind.
-/

namespace Phrasebook

open Relation (ReflTransGen)
open Text (Cut)
open Written (Before)

def Token.kind : Token → TokenKind
  | .data _ => .data
  | .method _ _ _ => .method
  | .piped _ _ _ => .piped

@[simp] theorem TokenKind.kind_token (k : TokenKind) (label full : String) :
    (k.token label full).kind = k := by
  cases k with
  | piped => rfl
  | data => rfl
  | method =>
      change (Token.ofMethod label full).kind = .method
      unfold Token.ofMethod
      dsimp only
      split <;> rfl

namespace Label

variable {k : TokenKind} {part s t : List Char}

theorem exists_infix_of_infix_without {parts : Set (List Char)}
    {stretches : List (List Char)} (hparts : ∀ part ∈ stretches, part ∈ parts)
    (h : t <:+: without s stretches) :
    ∃ stretch, stretch <:+: s ∧ ReflTransGen (Cut parts) stretch t := by
  induction stretches generalizing s with
  | nil => exact ⟨t, h, .refl⟩
  | cons part stretches ih =>
      obtain ⟨hpart, hrest⟩ := List.forall_mem_cons.mp hparts
      obtain ⟨stretch, hinfix, hcuts⟩ := ih hrest h
      obtain ⟨stretch', hinfix', hcuts'⟩ :=
        Text.exists_infix_of_infix_replaceChars hpart hinfix
      exact ⟨stretch', hinfix', hcuts'.trans hcuts⟩

/-! ## Claims in order -/

theorem before_trans {k l m : TokenKind} (h : Before k l) (h' : Before l m) :
    Before k m := by
  cases h with
  | piped_method =>
      cases h'
      exact .piped_data
  | piped_data => cases h'
  | method_data => cases h'

theorem kind_mem_of_mem_claimed {kinds : List TokenKind}
    {e : TokenKind × List Char} (h : e ∈ claimed kinds s) : e.1 ∈ kinds := by
  induction kinds generalizing s with
  | nil => simp [claimed] at h
  | cons k kinds ih =>
      rw [claimed, List.mem_append, List.mem_map] at h
      rcases h with ⟨part, -, rfl⟩ | h
      · exact List.mem_cons_self
      · exact List.mem_cons_of_mem _ (ih h)

/-- Claims of earlier kinds come first. -/
theorem pairwise_claimed {kinds : List TokenKind}
    (hkinds : kinds.Pairwise Before) (s : List Char) :
    (claimed kinds s).Pairwise fun e e' => e.1 = e'.1 ∨ Before e.1 e'.1 := by
  induction kinds generalizing s with
  | nil => exact .nil
  | cons k kinds ih =>
      obtain ⟨hbefore, hrest⟩ := List.pairwise_cons.mp hkinds
      rw [claimed, List.pairwise_append]
      refine ⟨?_, ih hrest _, ?_⟩
      · exact List.pairwise_map.mpr
          (List.pairwise_of_forall fun _ _ => .inl rfl)
      · intro e he e' he'
        obtain ⟨part, -, rfl⟩ := List.mem_map.mp he
        exact .inr (hbefore _ (kind_mem_of_mem_claimed he'))

theorem exists_mem_firstClaims {l : List (TokenKind × List Char)}
    {seen : List (List Char)}
    (hl : l.Pairwise fun e e' => e.1 = e'.1 ∨ Before e.1 e'.1)
    (h : (k, part) ∈ l) (hseen : part ∉ seen) :
    ∃ k', (k' = k ∨ Before k' k) ∧ (k', part) ∈ firstClaims seen l := by
  induction l generalizing seen with
  | nil => simp at h
  | cons e l ih =>
      obtain ⟨hfirst, hrest⟩ := List.pairwise_cons.mp hl
      by_cases heq : e.2 = part
      · have hkept : e ∈ firstClaims seen (e :: l) := by
          rw [firstClaims, if_neg (by simpa [heq] using hseen)]
          exact List.mem_cons_self
        refine ⟨e.1, ?_, heq ▸ hkept⟩
        rcases List.mem_cons.mp h with h | h
        · exact .inl (congrArg Prod.fst h.symm)
        · exact hfirst _ h
      · have hmem : (k, part) ∈ l := by
          refine (List.mem_cons.mp h).resolve_left ?_
          rintro rfl
          exact heq rfl
        rw [firstClaims]
        split
        · exact ih hrest hmem hseen
        · have hseen' : part ∉ e.2 :: seen := by
            simpa using ⟨Ne.symm heq, hseen⟩
          obtain ⟨k', hk', hkept⟩ := ih hrest hmem hseen'
          exact ⟨k', hk', List.mem_cons_of_mem _ hkept⟩

/-! ## Where a claim comes from -/

/-- A claim is a stretch of the text with claims of earlier kinds cut out of
it. -/
theorem exists_infix_of_mem_claimed {kinds : List TokenKind}
    (hkinds : kinds.Pairwise Before) (h : (k, part) ∈ claimed kinds s) :
    ∃ stretch, stretch <:+: s ∧
      ReflTransGen (Cut {u | ∃ l, Before l k ∧ (l, u) ∈ claimed kinds s})
        stretch part := by
  induction kinds generalizing s with
  | nil => simp [claimed] at h
  | cons l kinds ih =>
      obtain ⟨hbefore, hrest⟩ := List.pairwise_cons.mp hkinds
      rw [claimed] at h ⊢
      rcases List.mem_append.mp h with h | h
      · obtain ⟨part', hfound, heq⟩ := List.mem_map.mp h
        obtain rfl : part' = part := (Prod.mk.inj heq).2
        exact ⟨part', Text.infix_of_mem_claimsFrom hfound, .refl⟩
      · obtain ⟨stretch, hinfix, hcuts⟩ := ih hrest h
        have hk : Before l k := hbefore k (kind_mem_of_mem_claimed h)
        have hfound : ∀ u ∈ l.found s, u ∈ {u | ∃ m, Before m k ∧
            (m, u) ∈ (l.found s).map (l, ·) ++ claimed kinds
              (without s (l.found s))} :=
          fun u hu => ⟨l, hk, List.mem_append_left _ (List.mem_map_of_mem hu)⟩
        obtain ⟨stretch', hinfix', hcuts'⟩ :=
          exists_infix_of_infix_without hfound hinfix
        refine ⟨stretch', hinfix', hcuts'.trans (Text.cuts_mono ?_ hcuts)⟩
        rintro u ⟨m, hm, hu⟩
        exact ⟨m, hm, List.mem_append_right _ hu⟩

theorem mem_tokens {label : String} {t : Token} :
    t ∈ tokens label ↔
      ∃ k part, (k, part) ∈ firstClaims []
        (claimed TokenKind.all label.toList) ∧
      k.token label (String.ofList part) = t := by
  simp [tokens]

/-- The text of a token comes from a stretch of the label by cuts within it,
each of which takes out the text of a token of an earlier kind. If the label has
no tokens of an earlier kind, the text of the token itself stands in the
label. -/
theorem exists_infix_of_mem_tokens {label : String} {t : Token}
    (h : t ∈ tokens label) :
    (∃ stretch, stretch <:+: label.toList ∧
      ReflTransGen
        (Cut {part | ∃ u ∈ tokens label,
          Before u.kind t.kind ∧ u.full.toList = part})
        stretch t.full.toList) ∧
      ((∀ u ∈ tokens label, ¬ Before u.kind t.kind) →
        t.full.toList <:+: label.toList) := by
  obtain ⟨k, part, hkept, rfl⟩ := mem_tokens.mp h
  have hclaimed := mem_of_mem_firstClaims hkept
  obtain ⟨stretch, hinfix, hcuts⟩ :=
    exists_infix_of_mem_claimed pairwise_before_all hclaimed
  rw [Rendering.full_token, String.toList_ofList, TokenKind.kind_token]
  have hcuts' : ReflTransGen (Cut {part | ∃ u ∈ tokens label, Before u.kind k ∧
      u.full.toList = part}) stretch part := by
    refine Text.cuts_mono ?_ hcuts
    rintro u ⟨l, hl, hu⟩
    obtain ⟨l', hl', hkept'⟩ :=
      exists_mem_firstClaims
        (pairwise_claimed pairwise_before_all _) hu List.not_mem_nil
    have hbefore : Before l' k := by
      rcases hl' with rfl | hl'
      · exact hl
      · exact before_trans hl' hl
    refine ⟨l'.token label (String.ofList u),
      mem_tokens.mpr ⟨l', u, hkept', rfl⟩, ?_, ?_⟩
    · rwa [TokenKind.kind_token]
    · rw [Rendering.full_token, String.toList_ofList]
  refine ⟨⟨stretch, hinfix, hcuts'⟩, fun hnone => ?_⟩
  have hempty :
      {part | ∃ u ∈ tokens label, Before u.kind k ∧ u.full.toList = part} =
        ∅ := by
    refine Set.eq_empty_of_forall_notMem ?_
    rintro _ ⟨u, hu, hbefore, -⟩
    exact hnone u hu hbefore
  rw [hempty] at hcuts'
  exact Text.eq_of_cuts_empty hcuts' ▸ hinfix

/-- In `{na{x|y}me}` the piped token `{x|y}` stands within the braces of another
token. When it is taken out, the sides close up to `{name}`, which has one cut
in it. -/
theorem exists_infix_name :
    let label := "{na{x|y}me}"
    ∃ t ∈ tokens label, t.full = "{name}" ∧
      ∃ stretch, stretch <:+: label.toList ∧
      ReflTransGen
        (Cut {part | ∃ u ∈ tokens label,
          Before u.kind t.kind ∧ u.full.toList = part})
        stretch t.full.toList := by
  intro label
  have hmem : Token.ofData label "{name}" ∈ tokens label := by decide +kernel
  exact ⟨_, hmem, Rendering.full_token .data label _,
    (exists_infix_of_mem_tokens hmem).1⟩

/-- The text of a token that is found in a label need not stand in the label. -/
theorem name_across_seam :
    let label := "{na{x|y}me}"
    ∃ t ∈ tokens label, ¬ t.full.toList <:+: label.toList := by
  intro label
  exact ⟨Token.ofData label "{name}", by decide +kernel, by decide +kernel⟩

end Label
end Phrasebook

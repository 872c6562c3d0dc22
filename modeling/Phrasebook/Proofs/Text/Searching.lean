import Mathlib
import Phrasebook.Text.Search

/-!
# Searching from left to right

A search goes through a text place by place. At a stretch without a hit it goes
on behind the stretch, and a hit is passed over as a whole. So a search of texts
put together can be followed from one text to the next.
-/

namespace Phrasebook
namespace Text

variable {c : Char} {s rest old new : List Char}

/-! ## Replacing -/

theorem replaceFrom_length_append (s : List Char) :
    replaceFrom old new s.length (s ++ rest) = replaceChars rest old new := by
  induction s with
  | nil => rfl
  | cons c s ih => exact ih

theorem replaceChars_cons_of_not_isPrefix (h : ¬ old <+: c :: rest) :
    replaceChars (c :: rest) old new = c :: replaceChars rest old new := by
  have hprefix : ¬ old.isPrefixOf (c :: rest) = true := by
    rwa [List.isPrefixOf_iff_prefix]
  rw [replaceChars, replaceFrom, if_neg hprefix, replaceChars]

/-- A text in which no hit begins, not even one that goes on behind it, stays as
it is. -/
theorem replaceChars_append_of_not_isPrefix
    (h : ∀ u, u <:+ s → u ≠ [] → ¬ old <+: u ++ rest) :
    replaceChars (s ++ rest) old new = s ++ replaceChars rest old new := by
  induction s with
  | nil => rfl
  | cons c s ih =>
      have hhere : ¬ old <+: c :: (s ++ rest) :=
        h (c :: s) List.suffix_rfl (by simp)
      have hlater :=
        ih fun u hu hne => h u (hu.trans (List.suffix_cons c s)) hne
      rw [List.cons_append, replaceChars_cons_of_not_isPrefix hhere, hlater,
        List.cons_append]

theorem replaceChars_self_append :
    replaceChars (c :: old ++ rest) (c :: old) new = new ++ replaceChars rest
      (c :: old) new := by
  have hprefix : (c :: old).isPrefixOf (c :: (old ++ rest)) = true := by
    rw [List.isPrefixOf_iff_prefix]
    exact List.prefix_append (c :: old) rest
  rw [replaceChars, List.cons_append, replaceFrom, if_pos hprefix,
    List.length_cons, Nat.add_sub_cancel, replaceFrom_length_append]

theorem replaceChars_of_not_isInfix (h : ¬ old <:+: s) :
    replaceChars s old new = s := by
  induction s with
  | nil => rfl
  | cons c s ih =>
      obtain ⟨hhere, hrest⟩ : ¬ old <+: c :: s ∧ ¬ old <:+: s := by
        simpa [List.infix_cons_iff] using h
      rw [replaceChars_cons_of_not_isPrefix hhere, ih hrest]

theorem mem_replaceFrom {skip : Nat} (h : c ∈ replaceFrom old new skip s) :
    c ∈ s ∨ c ∈ new := by
  induction s generalizing skip with
  | nil => simp [replaceFrom] at h
  | cons d s ih =>
      have hrest : ∀ {skip}, c ∈ replaceFrom old new skip s → c ∈ d :: s ∨
          c ∈ new :=
        fun hmem => (ih hmem).imp_left (List.mem_cons_of_mem d)
      cases skip with
      | succ skip => exact hrest h
      | zero =>
          rw [replaceFrom] at h
          split at h
          · rcases List.mem_append.mp h with h | h
            · exact .inr h
            · exact hrest h
          · rcases List.mem_cons.mp h with rfl | h
            · exact .inl List.mem_cons_self
            · exact hrest h

/-! ## Containing -/

theorem hasPart_iff {part : List Char} :
    hasPart part s = true ↔ part <:+: s := by
  induction s with
  | nil => simp [hasPart]
  | cons c s ih =>
      rw [hasPart, Bool.or_eq_true, List.isPrefixOf_iff_prefix, ih,
        List.infix_cons_iff]

/-! ## Claiming -/

variable {scan? : List Char → Option Nat}

theorem claimsFrom_length_append (s : List Char) :
    claimsFrom scan? s.length (s ++ rest) = claims scan? rest := by
  induction s with
  | nil => rfl
  | cons c s ih => exact ih

theorem claims_cons_of_none (h : scan? (c :: rest) = none) :
    claims scan? (c :: rest) = claims scan? rest := by
  rw [claims, claimsFrom, h, claims]

theorem claims_append_of_none (h : ∀ c ∈ s, ∀ tail, scan? (c :: tail) = none) :
    claims scan? (s ++ rest) = claims scan? rest := by
  induction s with
  | nil => rfl
  | cons c s ih =>
      obtain ⟨hc, hs⟩ := List.forall_mem_cons.mp h
      rw [List.cons_append, claims_cons_of_none (hc _), ih hs]

theorem claims_append_of_some (hne : s ≠ [])
    (h : scan? (s ++ rest) = some s.length) :
    claims scan? (s ++ rest) = s :: claims scan? rest := by
  obtain ⟨c, s, rfl⟩ := List.exists_cons_of_ne_nil hne
  rw [List.cons_append] at h
  rw [claims, List.cons_append, claimsFrom, h, List.length_cons]
  simp [claimsFrom_length_append]

/-- A claim is what the scan takes up at some place of the text. -/
theorem exists_scan_of_mem_claimsFrom {skip : Nat} {part : List Char}
    (h : part ∈ claimsFrom scan? skip s) :
    ∃ u n, u <:+ s ∧ scan? u = some n ∧ u.take n = part := by
  induction s generalizing skip with
  | nil => simp [claimsFrom] at h
  | cons c s ih =>
      have hrest : ∀ {skip}, part ∈ claimsFrom scan? skip s →
          ∃ u n, u <:+ c :: s ∧ scan? u = some n ∧ u.take n = part := by
        intro skip h
        obtain ⟨u, n, hu, hscan, hpart⟩ := ih h
        exact ⟨u, n, hu.trans (List.suffix_cons c s), hscan, hpart⟩
      cases skip with
      | succ skip => exact hrest h
      | zero =>
          rw [claimsFrom] at h
          split at h
          · rename_i n hscan
            rcases List.mem_cons.mp h with rfl | h
            · exact ⟨c :: s, n, List.suffix_rfl, hscan, rfl⟩
            · exact hrest h
          · exact hrest h

theorem infix_of_mem_claimsFrom {skip : Nat} {part : List Char}
    (h : part ∈ claimsFrom scan? skip s) : part <:+: s := by
  obtain ⟨u, n, hu, -, rfl⟩ := exists_scan_of_mem_claimsFrom h
  exact (List.take_prefix n u).isInfix.trans hu.isInfix

end Text
end Phrasebook

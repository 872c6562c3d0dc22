import Mathlib
import Phrasebook.Proofs.Text.Splitting

/-!
# Taking parts out of a text

When every hit of a part is taken out of a text, what stood on the two sides of
a hit closes up. So a stretch of what is left need not be a stretch of the text.
It comes from one by cuts, one for each seam in it.
-/

namespace Phrasebook
namespace Text

open Relation (ReflTransGen)

variable {old s t : List Char}

/-! ## What stands between the hits -/

theorem replaceFrom_eq_intercalate (old new : List Char) (skip : Nat)
    (s : List Char) :
    replaceFrom old new skip s = new.intercalate (splitFrom old skip s) := by
  induction s generalizing skip with
  | nil => simp [replaceFrom, splitFrom]
  | cons c s ih =>
      cases skip with
      | succ skip => exact ih skip
      | zero =>
          rw [replaceFrom, splitFrom]
          split
          · have hne := splitFrom_ne_nil old (old.length - 1) s
            rw [ih, List.intercalate_cons_of_ne_nil hne, List.nil_append]
          · obtain ⟨piece, pieces, hpieces⟩ :=
              List.exists_cons_of_ne_nil (splitFrom_ne_nil old 0 s)
            rw [ih, hpieces, List.intercalate_cons_cons_left]

theorem intercalate_splitFrom (hold : old ≠ []) (skip : Nat) (s : List Char) :
    old.intercalate (splitFrom old skip s) = s.drop skip := by
  induction s generalizing skip with
  | nil => simp [splitFrom]
  | cons c s ih =>
      cases skip with
      | succ skip => exact ih skip
      | zero =>
          rw [splitFrom, List.drop_zero]
          split
          · rename_i hprefix
            obtain ⟨rest, hrest⟩ := List.isPrefixOf_iff_prefix.mp hprefix
            obtain ⟨d, ds, rfl⟩ := List.exists_cons_of_ne_nil hold
            obtain ⟨rfl, rfl⟩ : d = c ∧ ds ++ rest = s := List.cons.inj hrest
            have hne := splitFrom_ne_nil (d :: ds) ds.length (ds ++ rest)
            rw [List.length_cons, Nat.add_sub_cancel,
              List.intercalate_cons_of_ne_nil hne, ih, List.drop_left,
              List.nil_append, List.cons_append]
          · obtain ⟨piece, pieces, hpieces⟩ :=
              List.exists_cons_of_ne_nil (splitFrom_ne_nil old 0 s)
            have hleft := ih 0
            rw [hpieces, List.drop_zero] at hleft
            rw [hpieces, List.intercalate_cons_cons_left, hleft]

theorem replaceChars_same (hold : old ≠ []) (s : List Char) :
    replaceChars s old old = s := by
  rw [replaceChars, replaceFrom_eq_intercalate, intercalate_splitFrom hold,
    List.drop_zero]

theorem replaceChars_nil_nil (s : List Char) : replaceChars s [] [] = [] := by
  rw [replaceChars]
  induction s with
  | nil => rfl
  | cons c s ih => exact ih

/-! ## Cuts -/

/-- One of the parts, with text on both sides of it, is cut out of a text. -/
inductive Cut (parts : Set (List Char)) : List Char → List Char → Prop
  | intro {before part after : List Char} (hpart : part ∈ parts)
      (hbefore : before ≠ [])
      (hafter : after ≠ []) :
        Cut parts (before ++ part ++ after) (before ++ after)

variable {parts : Set (List Char)}

theorem cuts_mono {parts' : Set (List Char)} (hparts : parts ⊆ parts')
    (h : ReflTransGen (Cut parts) s t) : ReflTransGen (Cut parts') s t := by
  have hle : Cut parts ≤ Cut parts' := by
    rintro _ _ ⟨hpart, hbefore, hafter⟩
    exact .intro (hparts hpart) hbefore hafter
  exact ReflTransGen.mono hle _ _ h

theorem eq_of_cuts_empty (h : ReflTransGen (Cut ∅) s t) : s = t := by
  rcases ReflTransGen.cases_head h with heq | ⟨_, hcut, -⟩
  · exact heq
  · cases hcut with
    | intro hpart => exact absurd hpart (Set.notMem_empty _)

/-- Behind some text a part can be cut out in front of anything. -/
theorem exists_prefix_part_append (hold : old ∈ parts) (hs : s ≠ [])
    {rest : List Char} (h : ∃ stretch,
      stretch <+: rest ∧ ReflTransGen (Cut parts) (s ++ stretch) (s ++ t)) :
    ∃ stretch, stretch <+: old ++ rest ∧
      ReflTransGen (Cut parts) (s ++ stretch) (s ++ t) := by
  obtain ⟨stretch, hprefix, hcuts⟩ := h
  by_cases hstretch : stretch = []
  · exact ⟨[], List.nil_prefix, hstretch ▸ hcuts⟩
  · refine ⟨old ++ stretch, (List.prefix_append_right_inj old).mpr hprefix, ?_⟩
    rw [← List.append_assoc]
    exact .head (.intro hold hs hstretch) hcuts

theorem exists_prefix_of_prefix_intercalate (hold : old ∈ parts)
    {pieces : List (List Char)}
    (hs : s ≠ []) (h : t <+: [].intercalate pieces) :
    ∃ stretch, stretch <+: old.intercalate pieces ∧
      ReflTransGen (Cut parts) (s ++ stretch) (s ++ t) := by
  induction pieces generalizing s t with
  | nil => exact ⟨t, h, .refl⟩
  | cons x pieces ih =>
      cases pieces with
      | nil => exact ⟨t, h, .refl⟩
      | cons y pieces =>
          rw [List.intercalate_cons_cons, List.append_nil] at h
          rw [List.intercalate_cons_cons, List.append_assoc]
          obtain ⟨rest, hrest⟩ := h
          rcases List.append_eq_append_iff.mp hrest with ⟨x', rfl, -⟩ |
            ⟨t', rfl, hrest'⟩
          · refine ⟨t, ?_, .refl⟩
            rw [List.append_assoc]
            exact List.prefix_append t _
          · have hsx : s ++ x ≠ [] := List.append_ne_nil_of_left_ne_nil hs x
            obtain ⟨stretch, hprefix, hcuts⟩ :=
              exists_prefix_part_append hold hsx (ih hsx ⟨rest, hrest'.symm⟩)
            rw [List.append_assoc, List.append_assoc] at hcuts
            exact ⟨x ++ stretch, (List.prefix_append_right_inj x).mpr hprefix,
              hcuts⟩

theorem exists_infix_of_infix_intercalate (hold : old ∈ parts)
    {pieces : List (List Char)} (h : t <:+: [].intercalate pieces) :
    ∃ stretch, stretch <:+: old.intercalate pieces ∧
      ReflTransGen (Cut parts) stretch t := by
  induction pieces with
  | nil => exact ⟨t, h, .refl⟩
  | cons x pieces ih =>
      cases pieces with
      | nil => exact ⟨t, h, .refl⟩
      | cons y pieces =>
          rw [List.intercalate_cons_cons, List.append_nil] at h
          rw [List.intercalate_cons_cons, List.append_assoc]
          have hright : t <:+: [].intercalate (y :: pieces) →
              ∃ stretch, stretch <:+:
                x ++ (old ++ old.intercalate (y :: pieces)) ∧
                ReflTransGen (Cut parts) stretch t := by
            intro h
            obtain ⟨stretch, hinfix, hcuts⟩ := ih h
            rw [← List.append_assoc]
            exact ⟨stretch, hinfix.trans (List.suffix_append _ _).isInfix,
              hcuts⟩
          rcases List.infix_append_iff.mp h
            with h | h | ⟨before, after, rfl, hbefore, hafter⟩
          · exact ⟨t, h.trans (List.prefix_append _ _).isInfix, .refl⟩
          · exact hright h
          · by_cases hne : before = []
            · subst hne
              exact hright hafter.isInfix
            · obtain ⟨stretch, hprefix, hcuts⟩ :=
                exists_prefix_part_append hold hne
                  (exists_prefix_of_prefix_intercalate hold hne hafter)
              exact ⟨before ++ stretch,
                List.infix_append_iff.mpr
                  (.inr (.inr ⟨_, _, rfl, hbefore, hprefix⟩)), hcuts⟩

/-- A stretch of what is left when a part is taken out comes by cuts from a
stretch of the text. -/
theorem exists_infix_of_infix_replaceChars (hold : old ∈ parts)
    (h : t <:+: replaceChars s old []) :
    ∃ stretch, stretch <:+: s ∧ ReflTransGen (Cut parts) stretch t := by
  by_cases hne : old = []
  · rw [hne, replaceChars_nil_nil] at h
    exact ⟨t, h.trans (List.nil_infix), .refl⟩
  · rw [replaceChars, replaceFrom_eq_intercalate] at h
    have hstretch := exists_infix_of_infix_intercalate hold h
    rwa [intercalate_splitFrom hne, List.drop_zero] at hstretch

end Text
end Phrasebook

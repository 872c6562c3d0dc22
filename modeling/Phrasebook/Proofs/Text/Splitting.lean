import Phrasebook.Proofs.Text.Run
import Phrasebook.Text.Blank
import Phrasebook.Text.Search

/-!
# Taking texts apart

Pieces that were put together with a mark between them come apart again as long
as none of them contains the mark, and blanks put around a piece are trimmed off
again.
-/

namespace Phrasebook
namespace Text

/-! ## The first hit of a mark -/

theorem cut?_cons_of_not_isPrefix {mark rest : List Char} {c : Char}
    (h : ¬ mark <+: c :: rest) :
    cut? mark (c :: rest) = (cut? mark rest).map fun p => (c :: p.1, p.2) := by
  have hprefix : ¬ mark.isPrefixOf (c :: rest) = true := by
    rwa [List.isPrefixOf_iff_prefix]
  rw [cut?, if_neg hprefix]

theorem cut?_append_of_notMem {m : Char} {ms before : List Char}
    (h : m ∉ before) (rest : List Char) : cut? (m :: ms) (before ++ rest) =
      (cut? (m :: ms) rest).map fun p => (before ++ p.1, p.2) := by
  induction before with
  | nil => simp
  | cons c before ih =>
      obtain ⟨hne, hmem⟩ : m ≠ c ∧ m ∉ before := by simpa using h
      have hprefix : ¬ m :: ms <+: c :: (before ++ rest) := by
        simp [List.cons_prefix_cons, hne]
      rw [List.cons_append, cut?_cons_of_not_isPrefix hprefix, ih hmem,
        Option.map_map]
      rfl

theorem cut?_eq_none_of_not_mem {m : Char} {ms s : List Char} (h : m ∉ s) :
    cut? (m :: ms) s = none := by
  have hnone : cut? (m :: ms) [] = none := by simp [cut?]
  rw [← List.append_nil s, cut?_append_of_notMem h, hnone, Option.map_none]

theorem cut?_append {m : Char} {ms before : List Char} (h : m ∉ before)
    (after : List Char) :
    cut? (m :: ms) (before ++ (m :: ms ++ after)) = some (before, after) := by
  have hhere : cut? (m :: ms) (m :: ms ++ after) = some ([], after) := by
    simp [cut?, List.isPrefixOf_iff_prefix]
  rw [cut?_append_of_notMem h, hhere, Option.map_some, List.append_nil]

/-- The cut is made where the mark stands, and no hit begins earlier. -/
theorem cut?_sound {mark s before after : List Char}
    (h : cut? mark s = some (before, after)) :
    s = before ++ (mark ++ after) ∧
      ∀ u, u <:+ before → u ≠ [] → ¬ mark <+: u ++ (mark ++ after) := by
  induction s generalizing before with
  | nil =>
      obtain ⟨rfl, rfl, rfl⟩ : mark = [] ∧ [] = before ∧ [] = after := by
        simpa [cut?] using h
      refine ⟨rfl, fun u hu hne => ?_⟩
      exact absurd (List.suffix_nil.mp hu) hne
  | cons c s ih =>
      by_cases hprefix : mark <+: c :: s
      · obtain ⟨rest, hrest⟩ := hprefix
        rw [cut?, if_pos (List.isPrefixOf_iff_prefix.mpr ⟨rest, hrest⟩),
          ← hrest, List.drop_left] at h
        obtain ⟨rfl, rfl⟩ : [] = before ∧ rest = after := by simpa using h
        refine ⟨hrest.symm, fun u hu hne => ?_⟩
        exact absurd (List.suffix_nil.mp hu) hne
      · rw [cut?_cons_of_not_isPrefix hprefix] at h
        obtain ⟨⟨front, back⟩, hcut, heq⟩ := Option.map_eq_some_iff.mp h
        obtain ⟨rfl, rfl⟩ := Prod.mk.inj heq
        obtain ⟨rfl, hearlier⟩ := ih hcut
        refine ⟨rfl, fun u hu hne => ?_⟩
        rcases List.suffix_cons_iff.mp hu with rfl | hu
        · exact hprefix
        · exact hearlier u hu hne

theorem exists_cut? {mark s : List Char} (h : mark <:+: s) :
    ∃ before after, cut? mark s = some (before, after) := by
  induction s with
  | nil => exact ⟨[], [], by simp [cut?, List.infix_nil.mp h]⟩
  | cons c s ih =>
      by_cases hprefix : mark <+: c :: s
      · exact ⟨_, _, by
          rw [cut?, if_pos (List.isPrefixOf_iff_prefix.mpr hprefix)]⟩
      · obtain ⟨before, after, hcut⟩ :=
          ih ((List.infix_cons_iff.mp h).resolve_left hprefix)
        exact ⟨_, _, by
          rw [cut?_cons_of_not_isPrefix hprefix, hcut, Option.map_some]⟩

theorem takeWhile_of_cut? {m : Char} {s before after : List Char}
    (h : cut? [m] s = some (before, after)) :
    s.takeWhile (· != m) = before := by
  induction s generalizing before with
  | nil => simp [cut?] at h
  | cons c s ih =>
      rw [cut?] at h
      by_cases hc : m = c
      · subst hc
        obtain ⟨rfl, -⟩ : [] = before ∧ s = after := by simpa using h
        simp
      · obtain ⟨before, hcut, rfl⟩ :
          ∃ b, cut? [m] s = some (b, after) ∧ c :: b = before := by
          simpa [hc] using h
        simp [Ne.symm hc, ih hcut]

/-! ## The pieces between single characters -/

theorem splitFrom_ne_nil (mark : List Char) (skip : Nat) (s : List Char) :
    splitFrom mark skip s ≠ [] := by
  induction s generalizing skip with
  | nil => simp [splitFrom]
  | cons c s ih =>
      cases skip with
      | succ skip => exact ih skip
      | zero =>
          rw [splitFrom]
          split
          · simp
          · split <;> simp

theorem splitChars_singleton (m : Char) (s : List Char) :
    splitChars [m] s = s.splitOn m := by
  rw [splitChars, List.splitOn]
  induction s with
  | nil => simp [splitFrom, List.splitOnP_nil]
  | cons c s ih =>
      rw [List.splitOnP_cons_eq_if_modifyHead, splitFrom, ← ih]
      by_cases hc : c = m
      · simp [hc]
      · have hne : ¬ m = c := fun h => hc h.symm
        have hskip := splitFrom_ne_nil [m] 0 s
        cases hpieces : splitFrom [m] 0 s with
        | nil => exact absurd hpieces hskip
        | cons piece pieces => simp [hc, hne]

theorem splitChars_intercalate {m : Char} {pieces : List (List Char)}
    (hne : pieces ≠ []) (h : ∀ piece ∈ pieces, m ∉ piece) :
    splitChars [m] ([m].intercalate pieces) = pieces := by
  rw [splitChars_singleton, List.splitOn_intercalate m h hne]

theorem notMem_of_mem_splitChars {m : Char} {s piece : List Char}
    (h : piece ∈ splitChars [m] s) : m ∉ piece := by
  rw [splitChars] at h
  induction s generalizing piece with
  | nil =>
      obtain rfl : piece = [] := by simpa [splitFrom] using h
      simp
  | cons c s ih =>
      rw [splitFrom] at h
      split at h
      · rcases List.mem_cons.mp h with rfl | h
        · simp
        · exact ih h
      · rename_i hprefix
        have hne : m ≠ c := by simpa using hprefix
        obtain ⟨first, pieces, hpieces⟩ :=
          List.exists_cons_of_ne_nil (splitFrom_ne_nil [m] 0 s)
        rw [hpieces] at h ih
        rcases List.mem_cons.mp h with rfl | h
        · simpa [hne] using ih List.mem_cons_self
        · exact ih (List.mem_cons_of_mem _ h)

theorem mem_intercalate {mark : List Char} {pieces : List (List Char)}
    {c : Char} (h : c ∈ mark.intercalate pieces) :
    c ∈ mark ∨ ∃ piece ∈ pieces, c ∈ piece := by
  induction pieces with
  | nil => simp at h
  | cons piece pieces ih =>
      cases pieces with
      | nil => exact .inr ⟨piece, by simp, by simpa using h⟩
      | cons next pieces =>
          rw [List.intercalate_cons_cons, List.mem_append, List.mem_append] at h
          rcases h with (h | h) | h
          · exact .inr ⟨piece, by simp, h⟩
          · exact .inl h
          · rcases ih h with h | ⟨piece', hpiece', hc⟩
            · exact .inl h
            · exact .inr ⟨piece', List.mem_cons_of_mem _ hpiece', hc⟩

/-- Pieces with a character in front of each, as they stand between single
marks. -/
theorem cons_intercalate {m c : Char} {pieces : List (List Char)}
    (hne : pieces ≠ []) :
    c :: [m, c].intercalate pieces = [m].intercalate (pieces.map (c :: ·)) := by
  induction pieces with
  | nil => exact absurd rfl hne
  | cons piece pieces ih =>
      cases pieces with
      | nil => simp
      | cons next pieces =>
          have ih := ih (by simp)
          rw [List.map_cons] at ih ⊢
          rw [List.map_cons, List.intercalate_cons_cons,
            List.intercalate_cons_cons, ← ih]
          simp

theorem toList_join (mark : String) (ss : List String) :
    (join mark ss).toList = mark.toList.intercalate (ss.map String.toList) := by
  induction ss with
  | nil => simp [join]
  | cons s ss ih =>
      cases ss with
      | nil => simp [join]
      | cons next ss =>
          have hjoin : join mark (s :: next :: ss) = s ++ mark ++ join mark
              (next :: ss) := rfl
          rw [List.map_cons] at ih
          rw [hjoin, List.map_cons, List.map_cons, List.intercalate_cons_cons,
            ← ih]
          simp

/-! ## The pieces between longer marks -/

section Marks

variable {mark rest : List Char} {m c : Char} {s : List Char}

theorem splitFrom_length_append (s : List Char) :
    splitFrom mark s.length (s ++ rest) = splitChars mark rest := by
  induction s with
  | nil => rfl
  | cons c s ih => exact ih

theorem splitChars_cons_of_not_isPrefix (h : ¬ mark <+: c :: rest) :
    splitChars mark (c :: rest) = (splitChars mark rest).modifyHead
      (c :: ·) := by
  have hprefix : ¬ mark.isPrefixOf (c :: rest) = true := by
    rwa [List.isPrefixOf_iff_prefix]
  have hne := splitFrom_ne_nil mark 0 rest
  rw [splitChars, splitFrom, if_neg hprefix, splitChars]
  cases hpieces : splitFrom mark 0 rest with
  | nil => exact absurd hpieces hne
  | cons piece pieces => rfl

theorem splitChars_append_of_notMem (h : m ∉ s) :
    splitChars (m :: mark) (s ++ rest) =
      (splitChars (m :: mark) rest).modifyHead (s ++ ·) := by
  induction s with
  | nil =>
      rw [List.nil_append]
      cases splitChars (m :: mark) rest <;> rfl
  | cons c s ih =>
      obtain ⟨hne, hs⟩ : m ≠ c ∧ m ∉ s := by simpa using h
      have hprefix : ¬ (m :: mark) <+: c :: (s ++ rest) := by
        simp [List.cons_prefix_cons, hne]
      rw [List.cons_append, splitChars_cons_of_not_isPrefix hprefix, ih hs]
      cases splitChars (m :: mark) rest <;> rfl

theorem splitChars_self_append :
    splitChars (m :: mark) (m :: mark ++ rest) = [] :: splitChars
      (m :: mark) rest := by
  have hprefix : (m :: mark).isPrefixOf (m :: (mark ++ rest)) = true := by
    rw [List.isPrefixOf_iff_prefix]
    exact List.prefix_append (m :: mark) rest
  rw [splitChars, List.cons_append, splitFrom, if_pos hprefix, List.length_cons,
    Nat.add_sub_cancel, splitFrom_length_append]

/-- Pieces with a mark in front of each come apart again; nothing stands before
the first mark. -/
theorem splitChars_flatMap {pieces : List (List Char)}
    (h : ∀ piece ∈ pieces, m ∉ piece) :
    splitChars (m :: mark) (pieces.flatMap (m :: mark ++ ·)) =
      [] :: pieces := by
  induction pieces with
  | nil => rfl
  | cons piece pieces ih =>
      obtain ⟨hpiece, hpieces⟩ := List.forall_mem_cons.mp h
      rw [List.flatMap_cons, List.append_assoc, splitChars_self_append,
        splitChars_append_of_notMem hpiece, ih hpieces]
      simp

/-- Up to the first character of the mark, the first piece is the text. -/
theorem takeWhile_head_splitChars (m : Char) (mark s : List Char) :
    ((splitChars (m :: mark) s).headD []).takeWhile (· != m) =
      s.takeWhile (· != m) := by
  induction s with
  | nil => rfl
  | cons c s ih =>
      by_cases hc : c = m
      · subst hc
        by_cases hprefix : c :: mark <+: c :: s
        · obtain ⟨rest, hrest⟩ := hprefix
          rw [← hrest, splitChars_self_append]
          simp
        · rw [splitChars_cons_of_not_isPrefix hprefix]
          cases splitChars (c :: mark) s <;> simp
      · have hprefix : ¬ m :: mark <+: c :: s := by
          simp [List.cons_prefix_cons, Ne.symm hc]
        rw [splitChars_cons_of_not_isPrefix hprefix]
        obtain ⟨piece, pieces, hpieces⟩ :=
          List.exists_cons_of_ne_nil (splitFrom_ne_nil (m :: mark) 0 s)
        rw [splitChars, hpieces, List.headD_cons] at ih
        rw [splitChars, hpieces, List.modifyHead_cons, List.headD_cons,
          List.takeWhile_cons, List.takeWhile_cons, ih]

end Marks

/-! ## Trimming -/

theorem trimLeft_append {front s : List Char}
    (hfront : ∀ c ∈ front, isBlank c = true) :
    trimLeft (front ++ s) = trimLeft s :=
  List.dropWhile_append_of_pos hfront

theorem trimBoth_cons_of_isBlank {c : Char} (hc : isBlank c = true)
    (s : List Char) :
    trimBoth (c :: s) = trimBoth s := by
  have hleft : trimLeft (c :: s) = trimLeft s := by simp [trimLeft, hc]
  rw [trimBoth, hleft, trimBoth]

theorem trimLeft_eq_self {s : List Char} (hs : Stops isBlank s) :
    trimLeft s = s := by
  cases s with
  | nil => rfl
  | cons c s => exact trimLeft_cons_of_not_blank (stops_cons.mp hs)

theorem trimLeft_append_of_stops {s t : List Char} (ht : Stops isBlank t) :
    trimLeft (s ++ t) = trimLeft s ++ t := by
  rw [trimLeft, List.dropWhile_append]
  split
  · rename_i hblank
    have hs : s.dropWhile isBlank = [] := by simpa using hblank
    rw [trimLeft, hs]
    exact trimLeft_eq_self ht
  · rfl

theorem exists_trimLeft (s : List Char) :
    ∃ front, (∀ c ∈ front, isBlank c = true) ∧ s = front ++ trimLeft s :=
  ⟨s.takeWhile isBlank, fun _ => List.mem_takeWhile_imp,
    List.takeWhile_append_dropWhile.symm⟩

/-- Blanks around a text without blanks at its ends are trimmed off. -/
theorem trimBoth_append {front s back : List Char}
    (hfront : ∀ c ∈ front, isBlank c = true)
    (hback : ∀ c ∈ back, isBlank c = true) (hhead : Stops isBlank s)
    (hlast : Stops isBlank s.reverse) : trimBoth (front ++ s ++ back) = s := by
  have hreverse : ∀ c ∈ back.reverse, isBlank c = true := by simpa using hback
  cases s with
  | nil =>
      have hblank : ∀ c ∈ front ++ back, isBlank c = true := by
        intro c hc
        rcases List.mem_append.mp hc with hc | hc
        · exact hfront c hc
        · exact hback c hc
      have htrim := trimLeft_append (s := []) hblank
      rw [List.append_nil] at htrim ⊢
      rw [trimBoth, htrim]
      rfl
  | cons c s =>
      have hstops : Stops isBlank (c :: s ++ back) :=
        stops_cons.mpr (stops_cons.mp hhead)
      rw [trimBoth, List.append_assoc, trimLeft_append hfront,
        trimLeft_eq_self hstops, trimRight, List.reverse_append,
        dropWhile_append_of_stops hreverse hlast, List.reverse_reverse]

theorem trimBoth_eq_self {s : List Char} (hhead : Stops isBlank s)
    (hlast : Stops isBlank s.reverse) : trimBoth s = s := by
  have hblank : ∀ c ∈ ([] : List Char), isBlank c = true := by simp
  simpa using trimBoth_append hblank hblank hhead hlast

/-- A trimmed text has no blanks at its ends. -/
theorem stops_trimBoth (s : List Char) :
    Stops isBlank (trimBoth s) ∧ Stops isBlank (trimBoth s).reverse := by
  have hprefix : trimBoth s <+: trimLeft s := by
    rw [trimBoth, trimRight, ← List.reverse_suffix, List.reverse_reverse]
    exact List.dropWhile_suffix _
  have hlast : Stops isBlank (trimBoth s).reverse := by
    rw [trimBoth, trimRight, List.reverse_reverse]
    exact stops_dropWhile _
  exact ⟨(stops_dropWhile s).of_isPrefix hprefix, hlast⟩

/-- Trimming takes away blanks only. -/
theorem mem_trimBoth {s : List Char} {c : Char} (hc : isBlank c = false) :
    c ∈ trimBoth s ↔ c ∈ s := by
  have hmem : ∀ s : List Char, c ∈ s.dropWhile isBlank ↔ c ∈ s := by
    intro s
    have hfront : c ∉ s.takeWhile isBlank := by
      intro hmem
      rw [List.mem_takeWhile_imp hmem] at hc
      exact Bool.noConfusion hc
    calc c ∈ s.dropWhile isBlank
        ↔ c ∈ s.takeWhile isBlank ++ s.dropWhile isBlank := by
          rw [List.mem_append, or_iff_right hfront]
      _ ↔ c ∈ s := by rw [List.takeWhile_append_dropWhile]
  rw [trimBoth, trimRight, List.mem_reverse, hmem, List.mem_reverse, trimLeft,
    hmem]

end Text
end Phrasebook

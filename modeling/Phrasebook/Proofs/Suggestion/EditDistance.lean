import Mathlib
import Phrasebook.Suggestion

/-!
# The distance of two names

A text is edited character by character: one is kept, replaced, deleted or
inserted, and each of these but the first counts. The distance of two texts is
the least number of edits that makes one into the other. It is computed row by
row, with the distances from the part of one text read so far to all prefixes of
the other.

Rows grow at the end of the texts while edits start at their beginning, so the
rows are described with both parts reversed. In the end this makes no
difference, for edits can be reversed.
-/

namespace Phrasebook
namespace Suggestion

/-! ## Edits -/

/-- So many insertions, deletions and replacements make the first text into the
second. -/
inductive Edits : Nat → List Char → List Char → Prop
  | nil : Edits 0 [] []
  | keep {n : Nat} {s t : List Char} (c : Char) (h : Edits n s t) :
      Edits n (c :: s) (c :: t)
  | replace {n : Nat} {s t : List Char} (c d : Char) (h : Edits n s t) :
      Edits (n + 1) (c :: s) (d :: t)
  | delete {n : Nat} {s t : List Char} (c : Char) (h : Edits n s t) :
      Edits (n + 1) (c :: s) t
  | insert {n : Nat} {s t : List Char} (d : Char) (h : Edits n s t) :
      Edits (n + 1) s (d :: t)

namespace Edits

variable {m n : Nat} {s t u v : List Char}

theorem append (h : Edits m s t) (h' : Edits n u v) :
    Edits (m + n) (s ++ u) (t ++ v) := by
  induction h with
  | nil => simpa using h'
  | keep c _ ih => exact .keep c ih
  | replace c d _ ih => exact Nat.succ_add _ _ ▸ .replace c d ih
  | delete c _ ih => exact Nat.succ_add _ _ ▸ .delete c ih
  | insert d _ ih => exact Nat.succ_add _ _ ▸ .insert d ih

theorem reverse (h : Edits n s t) : Edits n s.reverse t.reverse := by
  induction h with
  | nil => exact .nil
  | keep c _ ih => simpa using ih.append (.keep c .nil)
  | replace c d _ ih => simpa using ih.append (.replace c d .nil)
  | delete c _ ih => simpa using ih.append (.delete c .nil)
  | insert d _ ih => simpa using ih.append (.insert d .nil)

theorem reverse_iff : Edits n s.reverse t.reverse ↔ Edits n s t :=
  ⟨fun h => by simpa using h.reverse, reverse⟩

theorem min (h : Edits m s t) (h' : Edits n s t) : Edits (min m n) s t := by
  rcases min_choice m n with heq | heq
  · rwa [heq]
  · rwa [heq]

end Edits

/-- The number is the least number of edits. -/
def IsDistance (s t : List Char) (n : Nat) : Prop :=
  IsLeast {k | Edits k s t} n

namespace IsDistance

variable {c d : Char} {s t : List Char} {n : Nat}

theorem nil_nil : IsDistance [] [] 0 :=
  ⟨.nil, fun _ _ => Nat.zero_le _⟩

theorem nil_cons (h : IsDistance [] t n) : IsDistance [] (d :: t) (n + 1) := by
  refine ⟨.insert d h.1, fun k hk => ?_⟩
  cases hk with
  | insert _ hk => exact Nat.succ_le_succ (h.2 hk)

theorem cons_nil (h : IsDistance s [] n) : IsDistance (c :: s) [] (n + 1) := by
  refine ⟨.delete c h.1, fun k hk => ?_⟩
  cases hk with
  | delete _ hk => exact Nat.succ_le_succ (h.2 hk)

/-- The first characters are kept or replaced, or the one is deleted, or the
other inserted. -/
theorem cons_cons {left above diagonal : Nat}
    (hleft : IsDistance (c :: s) t left) (habove : IsDistance s (d :: t) above)
    (hdiagonal : IsDistance s t diagonal) :
    IsDistance (c :: s) (d :: t)
      (min (min (left + 1) (above + 1))
        (if c = d then diagonal else diagonal + 1)) := by
  have hfirst : Edits (if c = d then diagonal else diagonal + 1) (c :: s)
      (d :: t) := by
    split_ifs with heq
    · exact heq ▸ .keep c hdiagonal.1
    · exact .replace c d hdiagonal.1
  refine ⟨((Edits.insert d hleft.1).min (.delete c habove.1)).min hfirst,
    fun k hk => ?_⟩
  cases hk with
  | keep _ hk =>
      have hle := hdiagonal.2 hk
      rw [if_pos rfl]
      omega
  | replace _ _ hk =>
      have hle := hdiagonal.2 hk
      split_ifs <;> omega
  | delete _ hk =>
      have hle := habove.2 hk
      omega
  | insert _ hk =>
      have hle := hleft.2 hk
      omega

end IsDistance

/-! ## Rows -/

/-- The numbers are the distances from `s` to what becomes of `t` as the
characters of `ds` are put in front of it one after the other. -/
inductive IsRow (s : List Char) : List Char → List Char → List Nat → Prop
  | last {t : List Char} {n : Nat} (h : IsDistance s t n) : IsRow s t [] [n]
  | cons {t ds : List Char} {d : Char} {n : Nat} {row : List Nat}
      (h : IsDistance s t n)
      (hrow : IsRow s (d :: t) ds row) : IsRow s t (d :: ds) (n :: row)

namespace IsRow

variable {c d : Char} {s t ds : List Char} {n : Nat} {row : List Nat}

theorem head (h : IsRow s t ds row) : IsDistance s t (row.headD 0) := by
  cases h with
  | last h => exact h
  | cons h _ => exact h

theorem getLastD (h : IsRow s t ds row) :
    IsDistance s (ds.reverse ++ t) (row.getLastD 0) := by
  induction h with
  | last h => exact h
  | @cons t ds d n row _ hrow ih =>
      cases hrow <;> simpa using ih

/-- The distances from the empty text are the lengths. -/
theorem range' (t ds : List Char) (h : IsDistance [] t n) :
    IsRow [] t ds (List.range' n (ds.length + 1)) := by
  induction ds generalizing t n with
  | nil => exact .last h
  | cons d ds ih => exact .cons h (ih (d :: t) h.nil_cons)

theorem nextEntries (h : IsRow s t ds row) (hn : IsDistance (c :: s) t n) :
    IsRow (c :: s) t ds (n :: nextEntries c n ds row) := by
  induction h generalizing n with
  | last h => exact .last hn
  | @cons t ds d diagonal row hdiagonal hrow ih =>
      cases hrow with
      | last habove => exact .cons hn (ih (hn.cons_cons habove hdiagonal))
      | cons habove _ => exact .cons hn (ih (hn.cons_cons habove hdiagonal))

theorem nextRow (h : IsRow s [] ds row) :
    IsRow (c :: s) [] ds (nextRow ds row c) :=
  h.nextEntries h.head.cons_nil

theorem foldl (h : IsRow s [] ds row) (cs : List Char) :
    IsRow (cs.reverse ++ s) [] ds (cs.foldl (Suggestion.nextRow ds) row) := by
  induction cs generalizing s row with
  | nil => exact h
  | cons c cs ih => simpa using ih (h.nextRow (c := c))

end IsRow

/-- What is computed is the least number of edits. -/
theorem isDistance_distance (s t : List Char) :
    IsDistance s t (distance s t) := by
  have hrow : IsRow [] [] t (List.range (t.length + 1)) :=
    List.range_eq_range' ▸ IsRow.range' [] t .nil_nil
  have hlast := (hrow.foldl s).getLastD
  rw [List.append_nil, List.append_nil] at hlast
  have hedits : {k | Edits k s.reverse t.reverse} = {k | Edits k s t} :=
    Set.ext fun _ => Edits.reverse_iff
  rw [IsDistance, ← hedits]
  exact hlast

end Suggestion
end Phrasebook

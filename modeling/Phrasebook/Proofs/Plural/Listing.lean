import Phrasebook.Eval.Builtin
import Phrasebook.Proofs.Plural.Writing

/-!
# Searching a list of numbers and ranges

The search works on texts: the list is taken apart at its commas, a range at its
dots, and what is not a range is compared with the text of the number searched
for. On the lists of plural conditions it agrees with equality and order of the
numbers written there, as the decimal text of a number determines the number and
is read back from the ends of a range.
-/

namespace Phrasebook
namespace Plural

/-! ## The ends of numbers and entries -/

theorem dot_notMem_digits (n : Int64) : '.' ∉ Integer.digits n := by
  intro h
  simpa using Integer.eq_minus_or_isDigit_of_mem_digits h

theorem read?_trimBoth_digits (n : Int64) (before after : Nat) :
    Integer.read?
      (Text.trimBoth (spaces before ++ Integer.digits n ++ spaces after)) =
      some n := by
  have hhead := Integer.stops_digits_append n []
  have hlast := Integer.stops_reverse_append_digits n []
  rw [List.append_nil] at hhead
  rw [List.nil_append] at hlast
  rw [Text.trimBoth_append (fun _ => isBlank_of_mem_spaces)
    (fun _ => isBlank_of_mem_spaces) hhead
    hlast, Integer.read?_digits]

theorem trimBoth_item (i : Item) : Text.trimBoth i.chars = i.entry.chars := by
  refine Text.trimBoth_append (fun _ => isBlank_of_mem_spaces)
    (fun _ => isBlank_of_mem_spaces) ?_ ?_
  · cases i.entry with
    | single v => simpa [Entry.chars] using Integer.stops_digits_append v []
    | range lo hi before after =>
        rw [Entry.chars, List.append_assoc]
        exact Integer.stops_digits_append lo _
  · cases i.entry with
    | single v =>
        simpa [Entry.chars] using Integer.stops_reverse_append_digits v []
    | range lo hi before after =>
        rw [Entry.chars, ← List.append_assoc, ← List.append_assoc]
        exact Integer.stops_reverse_append_digits hi _

/-! ## The search -/

theorem covers_chars (e : Entry) (n : Int64) :
    Primitive.covers (Integer.digits n) e.chars = e.covers n.toInt := by
  cases e with
  | single v =>
      have hcut : Text.cut? ['.', '.'] (Integer.digits v) = none :=
        Text.cut?_eq_none_of_not_mem (dot_notMem_digits v)
      have hsame : Primitive.covers (Integer.digits n) (Integer.digits v) =
          (Integer.digits v == Integer.digits n) := by
        rw [Primitive.covers, hcut]
      rw [Entry.chars, hsame, Entry.covers, Bool.eq_iff_iff, beq_iff_eq,
        decide_eq_true_eq]
      constructor
      · intro h
        rw [Integer.digits_injective h]
      · intro h
        rw [Int64.toInt_inj.mp h]
  | range lo hi before after =>
      have hdot : '.' ∉ Integer.digits lo ++ spaces before := by
        intro h
        rcases List.mem_append.mp h with h | h
        · exact dot_notMem_digits lo h
        · exact absurd (eq_of_mem_spaces h) (by decide)
      have hlo := read?_trimBoth_digits lo 0 before
      have hhi := read?_trimBoth_digits hi after 0
      rw [Primitive.covers, Entry.chars, Text.cut?_append hdot]
      simp only [spaces, List.replicate_zero, List.nil_append, List.append_nil]
        at hlo hhi
      simp only [spaces, hlo, hhi, Integer.read?_digits, Entry.covers]
      simp [Int64.le_iff_toInt_le]

theorem isListed_listChars (items : List Item) (n : Int64) :
    Primitive.isListed (listChars items) (Integer.digits n) =
      items.any fun i => i.entry.covers n.toInt := by
  have hsearch : Text.trimBoth (Integer.digits n) = Integer.digits n := by
    refine Text.trimBoth_eq_self ?_ ?_
    · simpa using Integer.stops_digits_append n []
    · simpa using Integer.stops_reverse_append_digits n []
  rw [Primitive.isListed, hsearch]
  cases items with
  | nil =>
      obtain ⟨c, cs, hcs⟩ :=
        List.exists_cons_of_ne_nil (Integer.digits_ne_nil n)
      rw [hcs]
      rfl
  | cons i items =>
      have hcomma : ∀ piece ∈ (i :: items).map Item.chars, ',' ∉ piece := by
        intro piece hpiece
        obtain ⟨j, -, rfl⟩ := List.mem_map.mp hpiece
        exact comma_notMem_item_chars j
      rw [listChars, Text.splitChars_intercalate (by simp) hcomma]
      simp only [List.any_map, Function.comp_def, trimBoth_item, covers_chars]

end Plural
end Phrasebook

import Mathlib
import Phrasebook.Proofs.Text.ByteOrder
import Phrasebook.Suggestion

/-!
# The ranking behind the suggestions

The known names within reach are ranked by their distance, and names of one
distance by their bytes. Only a name itself is as far and has the same bytes, so
there is one ranking only, in whatever order the names are known.
-/

namespace Phrasebook
namespace Suggestion

variable {name a b : String} {known known' ranked ranked' : List String}

/-- The first name is closer, or as close and not behind the other in the order
of bytes. -/
def IsAhead (name a b : String) : Prop :=
  distance name.toList a.toList < distance name.toList b.toList ∨
    distance name.toList a.toList = distance name.toList b.toList ∧
    Text.bytes a ≤ Text.bytes b

instance : Decidable (IsAhead name a b) :=
  inferInstanceAs (Decidable (_ ∨ _))

theorem IsAhead.antisymm (h : IsAhead name a b) (h' : IsAhead name b a) :
    a = b := by
  rcases h with h | ⟨heq, h⟩
  · rcases h' with h' | ⟨heq', -⟩ <;> omega
  · rcases h' with h' | ⟨-, h'⟩
    · omega
    · exact le_antisymm (Text.bytes_le_bytes.mp h) (Text.bytes_le_bytes.mp h')

/-- The known names within reach, as often as they are known, the one ahead of
the other. -/
structure IsRanking (name : String) (known ranked : List String) : Prop where
  perm : ranked.Perm (known.filter fun k =>
    1 ≤ distance name.toList k.toList ∧
      distance name.toList k.toList ≤ if name.length ≤ 3 then 1 else 2)
  sorted : ranked.Pairwise (IsAhead name)

theorem IsRanking.unique (h : IsRanking name known ranked)
    (h' : IsRanking name known ranked') :
    ranked = ranked' :=
  List.Perm.eq_of_pairwise (fun _ _ _ _ => IsAhead.antisymm) h.sorted h'.sorted
    (h.perm.trans h'.perm.symm)

theorem IsRanking.of_perm (h : IsRanking name known ranked)
    (hperm : known.Perm known') :
    IsRanking name known' ranked where
  perm := h.perm.trans (hperm.filter _)
  sorted := h.sorted

/-! ## The candidates in order -/

theorem goesBefore_iff {a b : Nat × String} :
    goesBefore a b = true ↔ a.1 < b.1 ∨ a.1 = b.1 ∧ a.2 ≤ b.2 := by
  simp only [goesBefore, Bool.or_eq_true, decide_eq_true_eq, Bool.and_eq_true,
    beq_iff_eq, Bool.not_eq_true', decide_eq_false_iff_not, not_lt]

theorem goesBefore_trans (a b c : Nat × String) (hab : goesBefore a b = true)
    (hbc : goesBefore b c = true) : goesBefore a c = true := by
  rw [goesBefore_iff] at *
  rcases hab with hab | ⟨hab, hle⟩ <;> rcases hbc with hbc | ⟨hbc, hle'⟩
  · exact .inl (hab.trans hbc)
  · exact .inl (hbc ▸ hab)
  · exact .inl (hab ▸ hbc)
  · exact .inr ⟨hab.trans hbc, hle.trans hle'⟩

theorem goesBefore_total (a b : Nat × String) :
    (goesBefore a b || goesBefore b a) = true := by
  rw [Bool.or_eq_true, goesBefore_iff, goesBefore_iff]
  rcases lt_trichotomy a.1 b.1 with hlt | heq | hgt
  · exact .inl (.inl hlt)
  · exact (le_total a.2 b.2).imp (fun hle => .inr ⟨heq, hle⟩) fun hle =>
      .inr ⟨heq.symm, hle⟩
  · exact .inr (.inl hgt)

theorem map_candidates (name : String) (known : List String) :
    (candidates name known).map Prod.snd = known.filter fun k =>
      1 ≤ distance name.toList k.toList ∧
        distance name.toList k.toList ≤ if name.length ≤ 3 then 1 else 2 := by
  have hsnd : Prod.snd ∘
      (fun k : String => (distance name.toList k.toList, k)) = id := rfl
  rw [candidates, List.filter_map, List.map_map, hsnd, List.map_id]
  refine List.filter_congr fun k _ => ?_
  rw [Bool.decide_and]
  rfl

theorem fst_of_mem_candidates {c : Nat × String}
    (h : c ∈ candidates name known) :
    c.1 = distance name.toList c.2.toList := by
  obtain ⟨k, -, rfl⟩ := List.mem_map.mp (List.mem_of_mem_filter h)
  rfl

theorem isRanking_mergeSort (name : String) (known : List String) :
    IsRanking name known
      (((candidates name known).mergeSort goesBefore).map Prod.snd) where
  perm := by
    rw [← map_candidates]
    exact (List.mergeSort_perm _ _).map _
  sorted := by
    have hsorted :=
      List.pairwise_mergeSort goesBefore_trans goesBefore_total
        (candidates name known)
    rw [List.pairwise_map]
    refine hsorted.imp_of_mem fun ha hb hab => ?_
    rw [List.mem_mergeSort] at ha hb
    rw [goesBefore_iff, fst_of_mem_candidates ha, fst_of_mem_candidates hb]
      at hab
    exact hab.imp_right (And.imp_right Text.bytes_le_bytes.mpr)

/-- The suggestions are the first three of the ranking. -/
theorem IsRanking.suggest_eq (h : IsRanking name known ranked) :
    suggest name known = ranked.take 3 := by
  rw [suggest, List.map_take, (isRanking_mergeSort name known).unique h]

theorem suggest_perm (h : known.Perm known') :
    suggest name known = suggest name known' := by
  rw [((isRanking_mergeSort name known).of_perm h).suggest_eq,
    (isRanking_mergeSort name known).suggest_eq]

end Suggestion
end Phrasebook

import Phrasebook.Proofs.Label.Written

/-!
# Telling the kinds of tokens apart

A piped token has a bar and a method token a point, and either stands behind the
first character of the name and before any closing brace. In the tokens of later
kinds there is no such mark, so where one of them begins no token of an earlier
kind does, whatever follows.
-/

namespace Phrasebook
namespace Written

variable {s : List Char}

/-- Behind its first two characters and before any closing brace the text has
the mark. -/
def Marked (m : Char) (s : List Char) : Prop :=
  ∃ first before after, s = '{' :: first :: (before ++ m :: after) ∧
    '}' ∉ before

/-- The text ends with its first closing brace, and up to there the mark is not
behind its first two characters. -/
def Unmarked (m : Char) (s : List Char) : Prop :=
  ∃ first inner, s = '{' :: first :: (inner ++ ['}']) ∧ m ∉ inner

/-- A text with a mark does not begin like one without it. -/
theorem Marked.ne_of_unmarked {m : Char} {t : List Char} (hm : m ≠ '}')
    (hs : Marked m s)
    (ht : Unmarked m t) (rest after : List Char) : s ++ rest ≠ t ++ after := by
  obtain ⟨first, before, behind, rfl, hbefore⟩ := hs
  obtain ⟨first', inner, rfl, hinner⟩ := ht
  intro h
  simp only [List.cons_append, List.append_assoc, List.cons.injEq, true_and]
    at h
  obtain ⟨-, h⟩ := h
  exact hm (Text.cons_eq_of_append_cons_eq h hinner hbefore).2.1

theorem marked_of_mem_piped (hs : s ∈ piped) : Marked '|' s := by
  obtain ⟨first, name, ks, cs, g, params, -, hname, hks, hcs, hg, -, rfl⟩ :=
    mem_piped.mp hs
  refine ⟨first, name ++ ks ++ cs ++ g, params ++ ['}'], by simp, ?_⟩
  simp only [List.mem_append]
  rintro (((hc | hc) | hc) | hc)
  · exact absurd (hname _ hc) (by decide)
  · exact absurd (class_of_mem_keys hks _ hc) (by decide)
  · exact absurd (class_of_mem_keys hcs _ hc) (by decide)
  · exact absurd (hg _ hc) (by decide)

theorem marked_of_mem_method (hs : s ∈ method) : Marked '.' s := by
  obtain ⟨first, name, k, ks, cs, -, hname, hk, -, -, rfl⟩ := mem_method.mp hs
  obtain ⟨g, -, w, -, rfl⟩ := mem_key.mp hk
  refine ⟨first, name, g ++ w ++ ks ++ cs ++ ['}'], by simp, ?_⟩
  intro hc
  exact absurd (hname _ hc) (by decide)

theorem unmarked_of_mem_method (hs : s ∈ method) : Unmarked '|' s := by
  obtain ⟨first, name, k, ks, cs, -, hname, hk, hks, hcs, rfl⟩ :=
    mem_method.mp hs
  have hk : k ∈ keys ['.'] false := by
    simpa using append_mem_keys hk nil_mem_keys
  refine ⟨first, name ++ k ++ ks ++ cs, by simp, ?_⟩
  simp only [List.mem_append]
  rintro (((hc | hc) | hc) | hc)
  · exact absurd (hname _ hc) (by decide)
  · exact absurd (class_of_mem_keys hk _ hc) (by decide)
  · exact absurd (class_of_mem_keys hks _ hc) (by decide)
  · exact absurd (class_of_mem_keys hcs _ hc) (by decide)

theorem unmarked_of_mem_data {m : Char} (hs : s ∈ data) (hbraced : Braced s)
    (hm : m ≠ ':' ∧ Text.isBlank m = false ∧ Unicode.isWord m = false) :
    Unmarked m s := by
  obtain ⟨g₁, w, g₂, ks, g₃, cs, g₄, hg, hw, hks, hcs, rfl⟩ :=
    (mem_data_of_braced hbraced).mp hs
  obtain ⟨first, inner, hinner⟩ :=
    List.exists_cons_of_ne_nil (l := g₁ ++ w) (by simp [hw.1])
  refine ⟨first, inner ++ (g₂ ++ (ks ++ (g₃ ++ (cs ++ g₄)))), ?_, ?_⟩
  · have hfront : g₁ ++ (w ++ (g₂ ++ (ks ++ (g₃ ++ (cs ++ (g₄ ++ ['}'])))))) =
        first :: inner ++ (g₂ ++ (ks ++ (g₃ ++ (cs ++ (g₄ ++ ['}']))))) := by
      rw [← hinner, List.append_assoc]
    rw [hfront]
    simp
  · intro hc
    have hall : m ∈ g₁ ++ w ++ (g₂ ++ (ks ++ (g₃ ++ (cs ++ g₄)))) := by
      rw [hinner]
      exact List.mem_cons_of_mem _ hc
    simp only [List.mem_append] at hall hg
    obtain ⟨hcolon, hblank, hword⟩ := hm
    have hkeys := class_of_mem_keys hks m
    have hcases := class_of_mem_keys hcs m
    have hgaps := hg m
    have hwords := hw.2 m
    simp [hcolon, hblank, hword] at hkeys hcases hgaps hwords
    tauto

inductive Before : TokenKind → TokenKind → Prop where
  | piped_method : Before .piped .method
  | piped_data : Before .piped .data
  | method_data : Before .method .data

/-- Where a token in simple braces begins there is no token of an earlier
kind. -/
theorem Before.append_ne {k l : TokenKind} {t : List Char} (h : Before k l)
    (hs : s ∈ ofKind k)
    (ht : t ∈ ofKind l) (hbraced : Braced t) (rest after : List Char) :
    s ++ rest ≠ t ++ after := by
  cases h with
  | piped_method =>
      have hmarked := marked_of_mem_piped hs
      exact hmarked.ne_of_unmarked (by decide)
        (unmarked_of_mem_method ht) rest after
  | piped_data =>
      have hdata := unmarked_of_mem_data (m := '|') ht hbraced (by decide)
      exact (marked_of_mem_piped hs).ne_of_unmarked (by decide) hdata rest after
  | method_data =>
      have hdata := unmarked_of_mem_data (m := '.') ht hbraced (by decide)
      exact (marked_of_mem_method hs).ne_of_unmarked
        (by decide) hdata rest after

theorem before_trichotomy (k l : TokenKind) :
    Before k l ∨ k = l ∨ Before l k := by
  cases k <;> cases l <;>
    first
      | exact .inr (.inl rfl)
      | exact .inl (by constructor)
      | exact .inr (.inr (by constructor))

theorem kind_unique {k l : TokenKind} (hbraced : Braced s) (hk : s ∈ ofKind k)
    (hl : s ∈ ofKind l) : k = l := by
  rcases before_trichotomy k l with h | h | h
  · exact absurd rfl (h.append_ne hk hl hbraced [] [])
  · exact h
  · exact absurd rfl (h.append_ne hl hk hbraced [] [])

end Written
end Phrasebook

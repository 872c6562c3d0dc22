import Phrasebook.Proofs.Label.Written
import Phrasebook.Proofs.Text.Searching

/-!
# Stretches of a label

A token is filled in, or taken out, by a search for its text through a whole
label. Where the label is cut into stretches in which the text does not begin,
unless the stretch is the text itself, the search hits just the stretches that
are the text. Texts in simple braces and texts without braces are such
stretches. More is not needed of a single search than that the text is found
nowhere but at the stretches that are the text.
-/

namespace Phrasebook

open Written (Braced Unbraced)

/-- The text begins with an opening brace, in front of which a percent sign may
stand. -/
def Written.Opened (s : List Char) : Prop :=
  ∃ rest, s = '{' :: rest ∨ s = '%' :: '{' :: rest

theorem Written.Braced.opened {s : List Char} (h : Braced s) : Opened s := by
  obtain ⟨inner, rfl, -⟩ := h
  exact ⟨_, .inl rfl⟩

theorem Written.Opened.ne_nil {s : List Char} (h : Opened s) : s ≠ [] := by
  obtain ⟨rest, rfl | rfl⟩ := h
  · simp
  · simp

namespace Label

/-! ## Stretches clear of a token -/

/-- The text of a token without the percent sign in front of its braces. -/
def fromBrace (t : List Char) : List Char :=
  t.dropWhile (· == '%')

/-- The braces of the token `t` open nowhere in `s`, not even so that the text
of the token would go on behind `s`. -/
def ClearOf (t s : List Char) : Prop :=
  ∀ u, u <:+ s → u ≠ [] → ¬ u <+: fromBrace t ∧ ¬ fromBrace t <+: u

instance (t s : List Char) : Decidable (ClearOf t s) :=
  decidable_of_iff
    (∀ u ∈ s.tails, u ≠ [] → ¬ u <+: fromBrace t ∧ ¬ fromBrace t <+: u)
    (by simp [ClearOf])

/-- Each stretch is the text of the token or clear of it. -/
def CutFor (segments : List (List Char)) (t : List Char) : Prop :=
  ∀ s ∈ segments, s = t ∨ ClearOf t s

variable {s t rest after : List Char} {segments : List (List Char)}

theorem clearOf_of_notMem (ht : Written.Opened t) (hs : '{' ∉ s) :
    ClearOf t s := by
  have hbrace : ∃ rest, fromBrace t = '{' :: rest := by
    obtain ⟨rest, rfl | rfl⟩ := ht
    · exact ⟨rest, rfl⟩
    · exact ⟨rest, rfl⟩
  obtain ⟨rest, hrest⟩ := hbrace
  intro u hu hne
  obtain ⟨c, u, rfl⟩ := List.exists_cons_of_ne_nil hne
  have hc : c ≠ '{' := by
    rintro rfl
    exact hs (hu.subset List.mem_cons_self)
  simp [hrest, List.cons_prefix_cons, hc, hc.symm]

/-- A text in simple braces is determined by any text that begins with it. -/
theorem eq_of_append_eq (hs : Braced s) (ht : Braced t)
    (h : s ++ rest = t ++ after) : s = t := by
  obtain ⟨inner, rfl, -, hinner⟩ := hs
  obtain ⟨inner', rfl, -, hinner'⟩ := ht
  simp only [List.cons_append, List.append_assoc, List.cons.injEq, true_and]
    at h
  obtain ⟨rfl, -, -⟩ := Text.cons_eq_of_append_cons_eq h hinner' hinner
  rfl

theorem clearOf_of_braced (hs : Braced s) (ht : Braced t) (hne : s ≠ t) :
    ClearOf t s := by
  intro u hu hnonempty
  obtain ⟨tail, rfl⟩ : ∃ tail, s = '{' :: tail := by
    obtain ⟨inner, rfl, -⟩ := hs
    exact ⟨_, rfl⟩
  rcases List.suffix_cons_iff.mp hu with rfl | hu
  · have hself : fromBrace t = t := by
      obtain ⟨inner, rfl, -⟩ := ht
      rfl
    rw [hself]
    constructor
    · rintro ⟨rest, heq⟩
      exact hne (eq_of_append_eq hs ht (heq.trans (List.append_nil t).symm))
    · rintro ⟨rest, heq⟩
      exact hne
        (eq_of_append_eq ht hs (heq.trans (List.append_nil _).symm)).symm
  · exact clearOf_of_notMem ht.opened hs.head.2 u hu hnonempty

theorem cutFor_of_braced (ht : Braced t)
    (h : ∀ s ∈ segments, Unbraced s ∨ Braced s) :
    CutFor segments t := by
  intro s hs
  rcases h s hs with hplain | hbraced
  · exact .inr (clearOf_of_notMem ht.opened hplain.1)
  · by_cases heq : s = t
    · exact .inl heq
    · exact .inr (clearOf_of_braced hbraced ht heq)

/-! ## Searching -/

theorem not_isPrefix_append_of_not_comparable {a u rest : List Char}
    (h : ¬ u <+: a ∧ ¬ a <+: u) :
    ¬ a <+: u ++ rest := by
  intro hbegin
  rcases List.prefix_or_prefix_of_prefix hbegin (List.prefix_append u rest)
    with h' | h'
  · exact h.2 h'
  · exact h.1 h'

/-- The braces of a token with a percent sign do not open at the beginning of
the stretches. -/
theorem not_isPrefix_flatten {rest : List Char}
    (h : CutFor segments ('%' :: '{' :: rest)) :
    ¬ '{' :: rest <+: segments.flatten := by
  induction segments with
  | nil => simp
  | cons s segments ih =>
      obtain ⟨hs, hrest⟩ := List.forall_mem_cons.mp h
      rw [List.flatten_cons]
      rcases hs with rfl | hs
      · simp [List.cons_prefix_cons]
      · cases s with
        | nil => exact ih hrest
        | cons c s =>
            exact not_isPrefix_append_of_not_comparable
              (hs _ List.suffix_rfl (by simp))

theorem ClearOf.not_isPrefix (ht : Written.Opened t) (hs : ClearOf t s)
    (h : CutFor segments t) {u : List Char} (hu : u <:+ s) (hne : u ≠ []) :
    ¬ t <+: u ++ segments.flatten := by
  obtain ⟨rest, rfl | rfl⟩ := ht
  · exact not_isPrefix_append_of_not_comparable (hs u hu hne)
  · -- The percent sign may be all that stands in `s`, and then the
    -- braces open behind it.
    obtain ⟨c, u, rfl⟩ := List.exists_cons_of_ne_nil hne
    rw [List.cons_append, List.cons_prefix_cons]
    rintro ⟨-, hbegin⟩
    by_cases hempty : u = []
    · subst hempty
      exact not_isPrefix_flatten h hbegin
    · have hlater : u <:+ s := (List.suffix_cons c u).trans hu
      exact not_isPrefix_append_of_not_comparable (hs u hlater hempty) hbegin

/-- The text of the token begins only where one of the stretches is the text. -/
def FoundIn (t : List Char) : (segments : List (List Char)) → Prop
  | [] => True
  | s :: segments =>
    (s = t ∨ ∀ u, u <:+ s → u ≠ [] → ¬ t <+: u ++ segments.flatten) ∧
      FoundIn t segments

instance decidableFoundIn (t : List Char) :
    (segments : List (List Char)) → Decidable (FoundIn t segments)
  | [] => inferInstanceAs (Decidable True)
  | s :: segments =>
    have hlater := decidableFoundIn t segments
    have hhere : Decidable
        (∀ u, u <:+ s → u ≠ [] → ¬ t <+: u ++ segments.flatten) :=
      decidable_of_iff (∀ u ∈ s.tails, u ≠ [] → ¬ t <+: u ++ segments.flatten)
        (by simp)
    inferInstanceAs (Decidable ((s = t ∨ _) ∧ _))

theorem CutFor.foundIn (h : CutFor segments t) (ht : Written.Opened t) :
    FoundIn t segments := by
  induction segments with
  | nil => trivial
  | cons s segments ih =>
      obtain ⟨hs, hrest⟩ := List.forall_mem_cons.mp h
      refine ⟨hs.imp_right fun hclear u hu hne => ?_, ih hrest⟩
      exact hclear.not_isPrefix ht hrest hu hne

/-- A search for the token hits the stretches that are its text, and nothing
else. -/
theorem replaceChars_of_foundIn (hne : t ≠ []) (h : FoundIn t segments)
    (new : List Char) :
    Text.replaceChars segments.flatten t new =
      (segments.map fun s => if s = t then new else s).flatten := by
  obtain ⟨c, t, rfl⟩ := List.exists_cons_of_ne_nil hne
  induction segments with
  | nil => rfl
  | cons s segments ih =>
      obtain ⟨hs, hrest⟩ := h
      rw [List.flatten_cons, List.map_cons, List.flatten_cons, ← ih hrest]
      by_cases heq : s = c :: t
      · rw [heq, if_pos rfl]
        exact Text.replaceChars_self_append
      · rw [if_neg heq]
        exact Text.replaceChars_append_of_not_isPrefix (hs.resolve_left heq)

theorem replaceChars_of_cutFor (ht : Written.Opened t)
    (h : CutFor segments t) (new : List Char) :
    Text.replaceChars segments.flatten t new =
      (segments.map fun s => if s = t then new else s).flatten :=
  replaceChars_of_foundIn ht.ne_nil (h.foundIn ht) new

end Label
end Phrasebook

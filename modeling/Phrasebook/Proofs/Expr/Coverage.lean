import Phrasebook.Proofs.Expr.Lexing

/-!
# What the lexemes leave out

A text is read to its end, and every character of it is either skipped or
belongs to one lexeme. `LaidOut` says so of a text and the lexemes in it: the
text is taken apart from the front, and only at its end there is nothing more to
take. Where the lexemes stand, that they do not overlap, and what the characters
outside of them are, are inductions along it.
-/

namespace Phrasebook

/-- A character stands in the first of two texts or behind it. -/
theorem Text.append_eq_append_cons {first rest before after : List Char}
    {c : Char} (h : first ++ rest = before ++ c :: after) :
    (∃ inner, first = before ++ c :: inner) ∨
      ∃ before', before = first ++ before' ∧ rest = before' ++ c :: after := by
  rcases List.append_eq_append_iff.mp h with ⟨before', hbefore, hrest⟩ |
    ⟨inner, hfirst, hafter⟩
  · exact .inr ⟨before', hbefore, hrest⟩
  · cases inner with
    | nil => exact .inr ⟨[], by simpa using hfirst.symm, hafter.symm⟩
    | cons d inner =>
        obtain ⟨rfl, -⟩ : c = d ∧ after = inner ++ rest := by simpa using hafter
        exact .inl ⟨inner, hfirst⟩

namespace Lexeme

open Text (Stops byteLength)

/-- The character belongs to no lexeme when `rest` stands behind it. -/
structure Skippable (c : Char) (rest : List Char) : Prop where
  notParenthesis : c ≠ '(' ∧ c ≠ ')'
  notWord : isWordChar c = false
  notOperator : isOperatorChar c = false
  sigil : c = '@' → Stops isWordChar rest
  quote : isQuote c = true → c ∉ rest

theorem skippable_iff {c : Char} {rest : List Char} :
    Skippable c rest ↔ begin? c rest = none := by
  rw [begin?_eq_none_iff]
  constructor
  · rintro ⟨⟨hopen, hclose⟩, hword, hop, hsigil, hquote⟩
    exact ⟨hopen, hclose, hword, hop, hsigil, hquote⟩
  · rintro ⟨hopen, hclose, hword, hop, hsigil, hquote⟩
    exact ⟨⟨hopen, hclose⟩, hword, hop, hsigil, hquote⟩

/-- The offset of the text behind the lexeme. -/
def Located.stop (x : Located) : Nat :=
  x.offset + byteLength x.lexeme.source

/-- The byte at the offset belongs to the lexeme. -/
def Located.Covers (x : Located) (offset : Nat) : Prop :=
  x.offset ≤ offset ∧ offset < x.stop

/-- From the offset on the text consists of the lexemes, each as long as it can
be, and of characters that are skipped. -/
inductive LaidOut : (offset : Nat) → List Char → List Located → Prop where
  | nil {offset : Nat} : LaidOut offset [] []
  | skipped {offset : Nat} {c : Char} {rest : List Char} {xs : List Located}
      (hc : Skippable c rest) (hrest : LaidOut (offset + c.utf8Size) rest xs) :
      LaidOut offset (c :: rest) xs
  | lexeme {offset : Nat} {l : Lexeme} {rest : List Char} {xs : List Located}
      (hl : l.WellFormed) (hends : l.EndsBefore rest)
      (hrest : LaidOut (offset + byteLength l.source) rest xs) :
      LaidOut offset (l.source ++ rest) (⟨l, offset⟩ :: xs)

theorem laidOut_lexFrom (offset : Nat) (s : List Char) :
    LaidOut offset s (lexFrom offset 0 s) := by
  induction s using reading_induction generalizing offset with
  | nil => exact .nil
  | skip c rest hnone ih =>
      rw [lexFrom_cons_of_none hnone]
      exact .skipped (skippable_iff.mpr hnone) (ih _)
  | lexeme l tail hl htail ih =>
      rw [lexFrom_source_append hl htail]
      exact .lexeme hl htail (ih _)

namespace LaidOut

variable {offset : Nat} {s : List Char} {xs : List Located}

/-- Every lexeme stands where it is recorded. -/
theorem exists_place (h : LaidOut offset s xs) : ∀ x ∈ xs, x.lexeme.WellFormed ∧
    ∃ before after, s = before ++ x.lexeme.source ++ after ∧
      x.offset = offset + byteLength before ∧ x.lexeme.EndsBefore after := by
  induction h with
  | nil => simp
  | @skipped offset c rest xs _ _ ih =>
      intro x hx
      obtain ⟨hl, before, after, rfl, hoffset, hends⟩ := ih x hx
      refine ⟨hl, c :: before, after, by simp, ?_, hends⟩
      rw [hoffset, Text.byteLength_cons, Nat.add_assoc]
  | @lexeme offset l rest xs hl hends _ ih =>
      refine List.forall_mem_cons.mpr
        ⟨⟨hl, [], rest, by simp, by simp, hends⟩, fun x hx => ?_⟩
      obtain ⟨hl', before, after, rfl, hoffset, hends'⟩ := ih x hx
      refine ⟨hl', l.source ++ before, after, by simp, ?_, hends'⟩
      rw [hoffset, Text.byteLength_append, Nat.add_assoc]

theorem offset_le (h : LaidOut offset s xs) : ∀ x ∈ xs, offset ≤ x.offset := by
  intro x hx
  obtain ⟨-, before, after, -, hoffset, -⟩ := h.exists_place x hx
  omega

/-- No lexeme begins before the one in front of it has ended. -/
theorem pairwise (h : LaidOut offset s xs) :
    xs.Pairwise fun x y => x.stop ≤ y.offset := by
  induction h with
  | nil => exact List.Pairwise.nil
  | skipped _ _ ih => exact ih
  | lexeme _ _ hrest ih => exact List.pairwise_cons.mpr ⟨hrest.offset_le, ih⟩

/-- A character outside of all lexemes was skipped. -/
theorem skippable (h : LaidOut offset s xs) {before after : List Char}
    {c : Char} (hs : s = before ++ c :: after)
    (hout : ∀ x ∈ xs, ¬ x.Covers (offset + byteLength before)) :
    Skippable c after := by
  induction h generalizing before with
  | nil => simp at hs
  | @skipped offset c' rest xs hc _ ih =>
      cases before with
      | nil =>
          obtain ⟨rfl, rfl⟩ : c' = c ∧ rest = after := by simpa using hs
          exact hc
      | cons d before =>
          obtain ⟨rfl, hrest⟩ : c' = d ∧ rest = before ++ c :: after := by
            simpa using hs
          refine ih hrest fun x hx => ?_
          rw [Nat.add_assoc, ← Text.byteLength_cons]
          exact hout x hx
  | @lexeme offset l rest xs _ _ _ ih =>
      obtain ⟨hfirst, hlater⟩ := List.forall_mem_cons.mp hout
      rcases Text.append_eq_append_cons hs with ⟨inner, hsource⟩ |
        ⟨before, rfl, hrest⟩
      · have hlength : byteLength l.source =
            byteLength before + (c.utf8Size + byteLength inner) := by
          rw [hsource, Text.byteLength_append, Text.byteLength_cons]
        have hstop : offset + byteLength before <
            offset + byteLength l.source := by
          have hpos := c.utf8Size_pos
          omega
        exact absurd ⟨Nat.le_add_right _ _, hstop⟩ hfirst
      · refine ih hrest fun x hx => ?_
        rw [Nat.add_assoc, ← Text.byteLength_append]
        exact hlater x hx

end LaidOut

/-- A text is read to its end, and nothing is lost but what can be skipped.
Every lexeme stands where it is recorded, as long as it can be there, none
begins before the one in front of it has ended, and a character outside of all
lexemes is no parenthesis, cannot be in a word or an operator, is no at sign
with a name behind it, and is no quotation mark that comes again. -/
theorem lex_lossless (s : List Char) :
    LaidOut 0 s (lex s) ∧
    (∀ x ∈ lex s, x.lexeme.WellFormed ∧
      ∃ before after, s = before ++ x.lexeme.source ++ after ∧
        x.offset = byteLength before ∧ x.lexeme.EndsBefore after) ∧
    (lex s).Pairwise (fun x y => x.stop ≤ y.offset) ∧
    ∀ before c after, s = before ++ c :: after →
      (∀ x ∈ lex s, ¬ x.Covers (byteLength before)) → Skippable c after := by
  have hlaid : LaidOut 0 s (lex s) := laidOut_lexFrom 0 s
  refine ⟨hlaid, fun x hx => ?_, hlaid.pairwise,
    fun before c after hs hout => ?_⟩
  · simpa only [Nat.zero_add] using hlaid.exists_place x hx
  · refine hlaid.skippable hs fun x hx => ?_
    rw [Nat.zero_add]
    exact hout x hx

/-- The quotation mark of a text that is not closed is skipped, and the words
behind it are read. -/
theorem lex_lossless_unclosed :
    let s := "(= @n 'é one)".toList
    (lex s).map (fun x => (String.ofList x.lexeme.source, x.offset)) =
        [("(", 0), ("=", 1), ("@n", 3), ("one", 10), (")", 13)] ∧
      Skippable '\x27' "é one)".toList := by
  intro s
  have hlex : (lex s).map (fun x => (String.ofList x.lexeme.source, x.offset)) =
      [("(", 0), ("=", 1), ("@n", 3), ("one", 10), (")", 13)] := by
    decide +kernel
  have hout : ∀ x ∈ lex s, ¬ x.Covers (byteLength "(= @n ".toList) := by
    unfold Located.Covers
    decide +kernel
  exact ⟨hlex, (lex_lossless s).2.2.2 _ _ _ (by rfl) hout⟩

end Lexeme
end Phrasebook

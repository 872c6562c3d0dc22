import Phrasebook.Proofs.Expr.Printing
import Phrasebook.Proofs.Plural.Condition
import Phrasebook.Proofs.Text.Splitting

/-!
# Plural conditions can be written

The expression of a plural condition is printable: its numbers have no sign, its
operations are words or runs of operator characters, and no quotation mark
stands in a list. So the text of a condition reads back as the condition.
-/

namespace Phrasebook
namespace Plural

/-! ## The characters of a list -/

theorem eq_of_mem_spaces {k : Nat} {c : Char} (h : c ∈ spaces k) : c = ' ' :=
  List.eq_of_mem_replicate h

theorem isBlank_of_mem_spaces {k : Nat} {c : Char} (h : c ∈ spaces k) :
    Text.isBlank c = true := by
  rw [eq_of_mem_spaces h]
  decide

theorem mem_entry_chars {e : Entry} {c : Char} (h : c ∈ e.chars) :
    (c = '-' ∨ c.isDigit = true) ∨ c = '.' ∨ c = ' ' := by
  cases e with
  | single v => exact .inl (Integer.eq_minus_or_isDigit_of_mem_digits h)
  | range lo hi before after =>
      simp only [Entry.chars, List.mem_append] at h
      rcases h with (h | h) | h | h | h
      · exact .inl (Integer.eq_minus_or_isDigit_of_mem_digits h)
      · exact .inr (.inr (eq_of_mem_spaces h))
      · exact .inr (.inl (by simpa using h))
      · exact .inr (.inr (eq_of_mem_spaces h))
      · exact .inl (Integer.eq_minus_or_isDigit_of_mem_digits h)

theorem mem_item_chars {i : Item} {c : Char} (h : c ∈ i.chars) :
    (c = '-' ∨ c.isDigit = true) ∨ c = '.' ∨ c = ' ' := by
  simp only [Item.chars, List.mem_append] at h
  rcases h with (h | h) | h
  · exact .inr (.inr (eq_of_mem_spaces h))
  · exact mem_entry_chars h
  · exact .inr (.inr (eq_of_mem_spaces h))

theorem comma_notMem_item_chars (i : Item) : ',' ∉ i.chars := by
  intro h
  simpa using mem_item_chars h

theorem isQuote_eq_false_of_mem_listChars {items : List Item} {c : Char}
    (h : c ∈ listChars items) : Lexeme.isQuote c = false := by
  rcases Text.mem_intercalate h with hc | ⟨piece, hpiece, hc⟩
  · rw [List.mem_singleton.mp hc]
    decide
  · obtain ⟨i, -, rfl⟩ := List.mem_map.mp hpiece
    rw [Lexeme.isQuote]
    rcases mem_item_chars hc with (rfl | hdigit) | rfl | rfl
    · decide
    · have hdouble : c ≠ '"' := by rintro rfl; exact absurd hdigit (by decide)
      have hsingle : c ≠ '\x27' := by
        rintro rfl; exact absurd hdigit (by decide)
      simp [hdouble, hsingle]
    · decide
    · decide

/-! ## Printable conditions -/

private theorem printable_word {name : String} {c : Char} {cs : List Char}
    (hchars : name.toList = c :: cs) (hdigit : c.isDigit = false)
    (hname : ∀ c ∈ name.toList, Lexeme.isWordChar c = true) :
    Expr.Printable (.symbol name) :=
  .word (by simp [hchars]) hname
    (Expr.not_isNumeral_of_mem (c := c) (by simp [hchars]) hdigit)

/-- An operation is printable by either name if its sign is an operator and its
word a name. -/
private theorem printable_pick (spelling : Spelling) {sign word : String}
    {c : Char} {cs : List Char} (hne : sign.toList ≠ [])
    (hsign : ∀ d ∈ sign.toList, Lexeme.isOperatorChar d = true)
    (hchars : word.toList = c :: cs) (hdigit : c.isDigit = false)
    (hword : ∀ d ∈ word.toList, Lexeme.isWordChar d = true) :
    Expr.Printable (.symbol (spelling.pick sign word)) := by
  cases spelling with
  | sign => exact .operator hne hsign
  | word => exact printable_word hchars hdigit hword

theorem Term.printable (t : Term) : Expr.Printable t.toExpr := by
  induction t with
  | literal k => exact .int k.nonneg
  | count =>
      have hat : "@n".toList = '@' :: ['n'] := rfl
      exact .sigil hat (by simp) (by simp [Lexeme.isWordChar])
  | remainder spelling t m ih =>
      have hhead : Expr.Printable (.symbol (spelling.pick "%" "mod")) :=
        printable_pick spelling (by simp)
          (by simp [Lexeme.isOperatorChar]) rfl rfl
          (by simp [Lexeme.isWordChar])
      have hpos := m.one_le
      have hm : Expr.Printable (.int m.value) := .int (by omega)
      exact .list (by simpa using ⟨hhead, ih, hm⟩)

theorem printable_sign (op : Comparison) :
    Expr.Printable (.symbol op.sign) := by
  cases op <;> exact .operator (by simp [Comparison.sign])
    (by simp [Comparison.sign, Lexeme.isOperatorChar])

theorem printable_listText (items : List Item) :
    Expr.Printable (.str (String.ofList (listChars items))) := by
  refine .str ?_
  rw [String.toList_ofList]
  intro h
  exact absurd (isQuote_eq_false_of_mem_listChars h.1) (by decide)

theorem Condition.printable (c : Condition) : Expr.Printable c.toExpr := by
  induction c using Condition.induction with
  | compare op l r =>
      exact .list (by simpa using ⟨printable_sign op, l.printable, r.printable⟩)
  | listed items t =>
      have hhead : Expr.Printable (.symbol "in") :=
        printable_word rfl rfl (by simp [Lexeme.isWordChar])
      exact .list
        (by simpa using ⟨hhead, printable_listText items, t.printable⟩)
  | all spelling cs ih =>
      have hhead : Expr.Printable (.symbol (spelling.pick "&&" "and")) :=
        printable_pick spelling (by simp)
          (by simp [Lexeme.isOperatorChar]) rfl rfl
          (by simp [Lexeme.isWordChar])
      exact .list (by simpa [toExprs_eq_map] using ⟨hhead, ih⟩)
  | any spelling cs ih =>
      have hhead : Expr.Printable (.symbol (spelling.pick "||" "or")) :=
        printable_pick spelling (by simp)
          (by simp [Lexeme.isOperatorChar]) rfl rfl
          (by simp [Lexeme.isWordChar])
      exact .list (by simpa [toExprs_eq_map] using ⟨hhead, ih⟩)
  | negation spelling c ih =>
      have hhead : Expr.Printable (.symbol (spelling.pick "!" "not")) :=
        printable_pick spelling (by simp)
          (by simp [Lexeme.isOperatorChar]) rfl rfl
          (by simp [Lexeme.isWordChar])
      exact .list (by simpa using ⟨hhead, ih⟩)
  | truth =>
      have hhead : Expr.Printable (.symbol "true") :=
        printable_word rfl rfl (by simp [Lexeme.isWordChar])
      exact .list (by simpa using hhead)
  | falsity =>
      have hhead : Expr.Printable (.symbol "false") :=
        printable_word rfl rfl (by simp [Lexeme.isWordChar])
      exact .list (by simpa using hhead)

theorem Condition.parse_text (c : Condition) : Expr.parse c.text = c.toExpr :=
  c.printable.parse_text

end Plural
end Phrasebook

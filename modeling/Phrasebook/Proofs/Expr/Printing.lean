import Phrasebook.Proofs.Expr.Grammar
import Phrasebook.Proofs.Number.Arithmetic
import Phrasebook.Proofs.Number.Decimal

/-!
# Printing and reading expressions

An expression is printable when its text is cut into lexemes where the printer
put them together. Printable expressions read back as themselves, and reading
never yields anything else but the symbol that stands for a stray closing
parenthesis.
-/

namespace Phrasebook
namespace Expr

open Lexeme (lexemes Breaks Run)

/-- The expressions that can be written down: integers without a sign, texts
that lack one of the quotation marks, words that are not read as integers, and
lists of such. -/
inductive Printable : Expr → Prop where
  | int {n : Int64} (hn : 0 ≤ n.toInt) : Printable (.int n)
  | str {s : String} (hs : ¬ ('"' ∈ s.toList ∧ '\x27' ∈ s.toList)) :
      Printable (.str s)
  | word {name : String} (hne : name.toList ≠ [])
      (hname : ∀ c ∈ name.toList, Lexeme.isWordChar c = true)
      (hnumeral : ¬ Integer.IsNumeral name.toList) : Printable (.symbol name)
  | sigil {name : String} {cs : List Char} (hat : name.toList = '@' :: cs)
      (hne : cs ≠ [])
      (hname : ∀ c ∈ cs, Lexeme.isWordChar c = true) : Printable (.symbol name)
  | operator {name : String} (hne : name.toList ≠ [])
      (hname : ∀ c ∈ name.toList, Lexeme.isOperatorChar c = true) :
        Printable (.symbol name)
  | list {es : List Expr} (hes : ∀ e ∈ es, Printable e) : Printable (.list es)

/-! ## Words -/

theorem ofWord_of_not_isNumeral {cs : List Char} (hne : cs ≠ [])
    (h : ¬ Integer.IsNumeral cs) :
    ofWord cs = .symbol (String.ofList cs) := by
  unfold ofWord
  split
  · rename_i hdigits
    have hdigits : ∀ c ∈ cs, c.isDigit = true := by simpa using hdigits
    have hlarge : Integer.read? cs = none := by
      have hvalue : ¬ Nat.ofDigitChars 10 cs 0 < 2 ^ 63 :=
        fun hfits => h ⟨hdigits, hfits⟩
      rw [Integer.read?_of_isDigit hne hdigits, Integer.ofInt?_of_le (by omega)]
    simp [hlarge]
  · rfl

theorem ofWord_natDigits {n : Int64} (hn : 0 ≤ n.toInt) :
    ofWord (Integer.digits n) = .int n := by
  have hdigits : (Integer.digits n).all Char.isDigit = true := by
    rw [Integer.digits_of_nonneg hn]
    simpa using fun c hc => Integer.isDigit_of_mem_natDigits hc
  simp [ofWord, hdigits]

theorem not_isNumeral_of_mem {cs : List Char} {c : Char} (hc : c ∈ cs)
    (h : c.isDigit = false) :
    ¬ Integer.IsNumeral cs := by
  intro hnumeral
  simpa [h] using hnumeral.1 c hc

theorem isWordChar_of_isDigit {c : Char} (h : c.isDigit = true) :
    Lexeme.isWordChar c = true := by
  simp [Lexeme.isWordChar, Char.isAlphanum, h]

theorem printable_ofWord {cs : List Char} {p : Char → Bool} (hrun : Run cs p) :
    Printable (ofWord cs) := by
  have hnil : cs ≠ [] := by cases hrun <;> first | assumption | simp
  by_cases hnumeral : Integer.IsNumeral cs
  · obtain ⟨hdigits, hfits⟩ := hnumeral
    have hall : cs.all Char.isDigit = true := by simpa using hdigits
    have hread : Integer.read? cs =
        some (Int64.ofInt (Nat.ofDigitChars 10 cs 0)) := by
      rw [Integer.read?_of_isDigit hnil hdigits,
        Integer.ofInt?_of_lt (by omega) (by omega)]
    rw [ofWord, if_pos hall, hread]
    refine .int ?_
    rw [Int64.toInt_ofInt_of_le (by omega) (by omega)]
    omega
  · rw [ofWord_of_not_isNumeral hnil hnumeral]
    cases hrun with
    | word hne hcs =>
        exact .word (by simpa using hne) (by simpa using hcs)
          (by simpa using hnumeral)
    | sigil hne hcs => exact .sigil String.toList_ofList hne hcs
    | operator hne hcs =>
        exact .operator (by simpa using hne) (by simpa using hcs)

theorem printable_quoted {mark : Char} {cs : List Char}
    (hmark : Lexeme.isQuote mark = true)
    (hcs : mark ∉ cs) : Printable (.str (String.ofList cs)) := by
  refine .str ?_
  rw [String.toList_ofList]
  rintro ⟨hdouble, hsingle⟩
  rcases Lexeme.isQuote_iff.mp hmark with rfl | rfl
  · exact hcs hdouble
  · exact hcs hsingle

/-! ## Reading what was printed -/

/-- The text of an expression is cut into lexemes of the expression, whatever
stands behind it. -/
def ReadsBack (e : Expr) : Prop :=
  ∃ ls, Derives ls e ∧ ∀ rest, Breaks rest →
    lexemes (e.chars ++ rest) = ls ++ lexemes rest

private theorem readsBack_word {e : Expr} (cs : List Char) {p : Char → Bool}
    (hchars : e.chars = cs) (hrun : Run cs p) (hword : ofWord cs = e) :
    ReadsBack e := by
  refine ⟨[.word cs], hword ▸ .word cs, ?_⟩
  intro rest hrest
  rw [hchars]
  exact Lexeme.lexemes_source_append (.word hrun) (hrest.endsBefore _)

theorem quotedChars_eq {s : List Char} (hs : ¬ ('"' ∈ s ∧ '\x27' ∈ s)) :
    ∃ mark, Lexeme.isQuote mark = true ∧ mark ∉ s ∧
      quotedChars s = (Lexeme.quoted mark s).source := by
  by_cases hdouble : '"' ∈ s
  · exact ⟨'\x27', by decide, fun hsingle => hs ⟨hdouble, hsingle⟩,
      by simp [quotedChars, hdouble, Lexeme.source]⟩
  · exact ⟨'"', by decide,
      hdouble, by simp [quotedChars, hdouble, Lexeme.source]⟩

private theorem breaks_cons {c : Char} {rest : List Char}
    (hword : Lexeme.isWordChar c = false)
    (hop : Lexeme.isOperatorChar c = false) : Breaks (c :: rest) :=
  ⟨Text.stops_cons.mpr hword, Text.stops_cons.mpr hop⟩

/-- The items of a list are read one after the other up to its closing
parenthesis. -/
private theorem lexemes_charsAll {es : List Expr}
    (hes : ∀ e ∈ es, ReadsBack e) :
    ∃ ls, DerivesAll ls es ∧ ∀ rest,
      lexemes (charsAll es ++ ')' :: rest) =
        ls ++ .closing :: lexemes rest := by
  have hclose : ∀ rest, lexemes (')' :: rest) = .closing :: lexemes rest :=
    fun rest => Lexeme.lexemes_source_append .closing trivial
  induction es with
  | nil => exact ⟨[], .nil, by simpa [charsAll] using hclose⟩
  | cons e es ih =>
      obtain ⟨ls, hls, hread⟩ := hes e (by simp)
      obtain ⟨ms, hms, hreads⟩ := ih fun e' he' => hes e' (by simp [he'])
      refine ⟨ls ++ ms, .cons hls hms, ?_⟩
      intro rest
      cases es with
      | nil =>
          cases hms
          rw [charsAll, hread _ (breaks_cons (by decide) (by decide)), hclose,
            List.append_nil]
      | cons e' es =>
          have hspace : ∀ s, lexemes (' ' :: s) = lexemes s := by
            intro s
            exact Lexeme.lexemes_cons_of_none rfl
          rw [charsAll.eq_3 e (e' :: es) (by simp), List.append_assoc,
            List.cons_append,
            hread _ (breaks_cons (by decide) (by decide)), hspace, hreads,
            List.append_assoc]

theorem Printable.readsBack {e : Expr} (h : Printable e) : ReadsBack e := by
  induction h with
  | @int n hn =>
      have hdigits : ∀ c ∈ Integer.digits n, Lexeme.isWordChar c = true := by
        intro c hc
        rw [Integer.digits_of_nonneg hn] at hc
        exact isWordChar_of_isDigit (Integer.isDigit_of_mem_natDigits hc)
      exact readsBack_word _ rfl (.word (Integer.digits_ne_nil n) hdigits)
        (ofWord_natDigits hn)
  | @str s hs =>
      obtain ⟨mark, hmark, hmem, hchars⟩ := quotedChars_eq hs
      refine ⟨[.quoted mark s.toList], by
        simpa using Derives.quoted mark s.toList, ?_⟩
      intro rest hrest
      rw [chars, hchars]
      exact Lexeme.lexemes_source_append (.quoted hmark hmem) trivial
  | @word name hne hname hnumeral =>
      exact readsBack_word name.toList rfl (.word hne hname)
        (by simpa using ofWord_of_not_isNumeral hne hnumeral)
  | @sigil name cs hat hne hname =>
      have hrun : Run name.toList Lexeme.isWordChar := hat ▸ Run.sigil hne hname
      refine readsBack_word name.toList rfl hrun ?_
      have hmem : '@' ∈ name.toList := by simp [hat]
      have hnumeral := not_isNumeral_of_mem hmem (by decide)
      simpa using ofWord_of_not_isNumeral (by simp [hat]) hnumeral
  | @operator name hne hname =>
      refine readsBack_word name.toList rfl (.operator hne hname) ?_
      obtain ⟨c, hc⟩ := List.exists_mem_of_ne_nil _ hne
      have hdigit : c.isDigit = false := by
        by_contra hdigit
        have hword := isWordChar_of_isDigit (by simpa using hdigit)
        simpa [Lexeme.isOperatorChar_of_isWordChar hword] using hname c hc
      simpa using ofWord_of_not_isNumeral hne (not_isNumeral_of_mem hc hdigit)
  | @list es _ ih =>
      obtain ⟨ls, hls, hreads⟩ := lexemes_charsAll ih
      refine ⟨.opening :: ls ++ [.closing], .list hls, ?_⟩
      intro rest _
      have hopen : ∀ s, lexemes ('(' :: s) = .opening :: lexemes s :=
        fun s => Lexeme.lexemes_source_append .opening trivial
      rw [chars, List.cons_append, List.cons_append, List.append_assoc, hopen]
      simp [hreads]

theorem Printable.parse_text {e : Expr} (h : Printable e) :
    parse e.text = e := by
  obtain ⟨ls, hls, hread⟩ := h.readsBack
  have hlexemes := hread [] ⟨Text.stops_nil, Text.stops_nil⟩
  rw [List.append_nil, Lexeme.lexemes_nil, List.append_nil] at hlexemes
  change ofLexemes (lexemes e.text.toList) = e
  rw [text, String.toList_ofList, hlexemes, hls.ofLexemes]

/-! ## Printing what was read -/

/-- However the lists of a text are closed, all that is read into them is
printable. -/
private theorem printable_readList {ls : List Lexeme}
    (hls : ∀ l ∈ ls, l.WellFormed) :
    Printable (readList [] [] ls) := by
  refine readList_of_items (fun _ => .list) ?_ ?_ (by simp) (by simp)
  · intro cs hmem
    cases hls _ hmem with
    | word hrun => exact printable_ofWord hrun
  · intro mark cs hmem
    cases hls _ hmem with
    | quoted hmark hcs => exact printable_quoted hmark hcs

/-- Whatever a text is, it is read as a printable expression or as a stray
parenthesis. -/
theorem printable_parse (s : String) :
    Printable (parse s) ∨ parse s = .symbol ")" := by
  have hls := Lexeme.wellFormed_of_mem_lexemes (s := s.toList)
  change Printable (ofLexemes (lexemes s.toList)) ∨
    ofLexemes (lexemes s.toList) = _
  cases hlexemes : lexemes s.toList with
  | nil => exact .inl (.list (by simp))
  | cons l ls =>
      rw [hlexemes] at hls
      obtain ⟨hl, hrest⟩ := List.forall_mem_cons.mp hls
      cases hl with
      | opening => exact .inl (printable_readList hrest)
      | closing => exact .inr rfl
      | word hrun => exact .inl (printable_ofWord hrun)
      | quoted hmark hcs => exact .inl (printable_quoted hmark hcs)

theorem parse_text_of_printable_or {e : Expr}
    (h : Printable e ∨ e = .symbol ")") :
    parse e.text = e := by
  rcases h with h | rfl
  · exact h.parse_text
  · decide

/-- An expression reads back from its text exactly when some text is read as it,
which is when it is printable or a stray closing parenthesis. So reading,
printing and reading again changes nothing, whatever the text. -/
theorem parse_text_tfae :
    (∀ e : Expr,
      [parse e.text = e, ∃ s, e = parse s,
        Printable e ∨ e = .symbol ")"].TFAE) ∧
      ∀ s : String, parse (parse s).text = parse s := by
  refine ⟨?_, fun s => parse_text_of_printable_or (printable_parse s)⟩
  intro e
  tfae_have 1 → 2 := fun h => ⟨e.text, h.symm⟩
  tfae_have 2 → 3 := by
    rintro ⟨s, rfl⟩
    exact printable_parse s
  tfae_have 3 → 1 := parse_text_of_printable_or
  tfae_finish

end Expr
end Phrasebook

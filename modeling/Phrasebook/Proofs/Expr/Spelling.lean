import Mathlib
import Phrasebook.Proofs.Expr.Grammar
import Phrasebook.Proofs.Expr.Names
import Phrasebook.Proofs.Text.Searching

/-!
# Symbols are spelled out

Reading takes symbols from the text as they stand there. So a search of the text
for a name, which knows nothing of lexemes, finds the name of every symbol,
though it may find more: it looks into quoted texts and longer names as well.
-/

namespace Phrasebook

namespace Lexeme

theorem source_infix_of_mem_lexemes {s : List Char} :
    ∀ l ∈ lexemes s, l.source <:+: s := by
  induction s using reading_induction with
  | nil => simp
  | skip c rest hnone ih =>
      rw [lexemes_cons_of_none hnone]
      exact fun l hl => (ih l hl).trans (List.suffix_cons c rest).isInfix
  | lexeme l tail hl htail ih =>
      rw [lexemes_source_append hl htail]
      refine List.forall_mem_cons.mpr
        ⟨(List.prefix_append l.source tail).isInfix, ?_⟩
      exact fun l' hl' =>
        (ih l' hl').trans (List.suffix_append l.source tail).isInfix

end Lexeme

namespace Expr

open Lexeme (lexemes)

variable {name : String}

theorem toList_of_mem_symbols_ofWord {cs : List Char}
    (h : name ∈ (ofWord cs).symbols) :
    name.toList = cs := by
  unfold ofWord at h
  split at h
  · split at h
    · simp [symbols] at h
    · simpa [symbols] using congrArg String.toList (List.mem_singleton.mp h)
  · simpa [symbols] using congrArg String.toList (List.mem_singleton.mp h)

/-- Every symbol that is read is one of the lexemes. -/
theorem exists_source_of_mem_symbols {ls : List Lexeme}
    (h : name ∈ (ofLexemes ls).symbols) :
    ∃ l ∈ ls, l.source = name.toList := by
  cases ls with
  | nil => simp [ofLexemes, symbols, symbolsAll] at h
  | cons first ls =>
      cases first with
      | opening =>
          have hall : ∀ name ∈ (readList [] [] ls).symbols, ∃ l ∈ ls,
              l.source = name.toList := by
            refine readList_of_items (P := fun e => ∀ name ∈ e.symbols,
              ∃ l ∈ ls, l.source = name.toList) ?_ ?_ ?_ (by simp) (by simp)
            · intro es hes name hname
              obtain ⟨e, he, hname⟩ := mem_symbolsAll.mp hname
              exact hes e he name hname
            · intro cs hmem name hname
              exact ⟨_, hmem, (toList_of_mem_symbols_ofWord hname).symm⟩
            · intro mark cs hmem name hname
              simp [symbols] at hname
          obtain ⟨l, hl, hsource⟩ := hall name h
          exact ⟨l, List.mem_cons_of_mem _ hl, hsource⟩
      | closing =>
          obtain rfl : name = ")" := List.mem_singleton.mp h
          exact ⟨.closing, List.mem_cons_self, rfl⟩
      | word cs =>
          exact ⟨.word cs, List.mem_cons_self,
            (toList_of_mem_symbols_ofWord h).symm⟩
      | quoted mark cs => simp [ofLexemes, symbols] at h

/-- The text of an expression contains the names of all its symbols. -/
theorem contains_of_mem_symbols_parse {s : String}
    (h : name ∈ (parse s).symbols) :
    Text.contains s name = true := by
  obtain ⟨l, hl, hsource⟩ := exists_source_of_mem_symbols h
  rw [Text.contains, Text.hasPart_iff, ← hsource]
  exact Lexeme.source_infix_of_mem_lexemes l hl

end Expr
end Phrasebook

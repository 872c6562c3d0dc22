import Phrasebook.Proofs.Expr.Lexing

/-!
# The grammar of rule expressions

An expression is a word, a quoted text, or a list of expressions in parentheses.
`Derives` says so of a run of lexemes and gives the tree. The lenient reader
rebuilds that tree with a stack of open lists, and the strict reader only counts
open lists; both are tied to the grammar here, each by an induction over
derivations for one direction and over the lexemes for the other.
-/

namespace Phrasebook
namespace Expr

open Lexeme (Located lexemes)

mutual

/-- The lexemes are those of one expression, which is the given tree. -/
inductive Derives : List Lexeme → Expr → Prop where
  | word (cs : List Char) : Derives [.word cs] (ofWord cs)
  | quoted (mark : Char) (cs : List Char) :
      Derives [.quoted mark cs] (.str (String.ofList cs))
  | list {ls : List Lexeme} {es : List Expr} (hitems : DerivesAll ls es) :
      Derives (.opening :: ls ++ [.closing]) (.list es)

inductive DerivesAll : List Lexeme → List Expr → Prop where
  | nil : DerivesAll [] []
  | cons {ls ms : List Lexeme} {e : Expr} {es : List Expr}
      (hhead : Derives ls e) (htail : DerivesAll ms es) :
        DerivesAll (ls ++ ms) (e :: es)

end

theorem Derives.ne_nil {ls : List Lexeme} {e : Expr} (h : Derives ls e) :
    ls ≠ [] := by
  cases h <;> simp

/-! ## The lenient reader -/

mutual

/-- Inside a list, the lexemes of an expression add it to the items. -/
theorem Derives.readList_append {ls : List Lexeme} {e : Expr} (h : Derives ls e)
    (outer : List (List Expr)) (items : List Expr) (rest : List Lexeme) :
    readList outer items (ls ++ rest) = readList outer (e :: items) rest := by
  cases h with
  | word cs => simp [readList]
  | quoted mark cs => simp [readList]
  | list hitems =>
      simp only [List.cons_append, List.append_assoc, readList]
      rw [hitems.readList_append]
      simp [readList]

theorem DerivesAll.readList_append {ls : List Lexeme} {es : List Expr}
    (h : DerivesAll ls es)
    (outer : List (List Expr)) (items : List Expr) (rest : List Lexeme) :
    readList outer items (ls ++ rest) =
      readList outer (es.reverse ++ items) rest := by
  cases h with
  | nil => simp
  | cons hhead htail =>
      rw [List.append_assoc, hhead.readList_append, htail.readList_append]
      simp

end

theorem Derives.ofLexemes {ls : List Lexeme} {e : Expr} (h : Derives ls e) :
    Expr.ofLexemes ls = e := by
  cases h with
  | word cs => rfl
  | quoted mark cs => rfl
  | list hitems =>
      simp only [List.cons_append, Expr.ofLexemes]
      rw [hitems.readList_append]
      simp [readList]

/-- Closing parentheses act as the end of the text does: each closes an open
list, and those behind the expression are left. -/
theorem readList_append_closing (outer : List (List Expr)) (items : List Expr)
    (ls : List Lexeme) (k : Nat) :
    readList outer items (ls ++ List.replicate k .closing) =
      readList outer items ls := by
  induction ls generalizing outer items with
  | nil =>
      simp only [List.nil_append, readList]
      induction k generalizing outer items with
      | zero => rfl
      | succ k ih =>
          cases outer with
          | nil => rfl
          | cons around outer =>
              rw [List.replicate_succ, readList, closeAll]
              exact ih outer (.list items.reverse :: around)
  | cons l ls ih =>
      cases l with
      | closing =>
          cases outer with
          | nil => rfl
          | cons around outer => exact ih outer (.list items.reverse :: around)
      | opening => exact ih (items :: outer) []
      | word cs => exact ih outer (ofWord cs :: items)
      | quoted mark cs => exact ih outer (.str (String.ofList cs) :: items)

theorem ofLexemes_append_closing {ls : List Lexeme} (hne : ls ≠ []) (k : Nat) :
    Expr.ofLexemes (ls ++ List.replicate k .closing) = Expr.ofLexemes ls := by
  cases ls with
  | nil => exact absurd rfl hne
  | cons l ls =>
      cases l with
      | opening => exact readList_append_closing [] [] ls k
      | closing => rfl
      | word cs => rfl
      | quoted mark cs => rfl

/-- A property that a list has if all its items have it holds of whatever is
read, if it holds of the words and the quoted texts. It does not matter how the
lists are closed. -/
theorem readList_of_items {P : Expr → Prop}
    (hlist : ∀ es, (∀ e ∈ es, P e) → P (.list es))
    {ls : List Lexeme} (hword : ∀ cs, .word cs ∈ ls → P (ofWord cs))
    (hquoted : ∀ mark cs, .quoted mark cs ∈ ls → P (.str (String.ofList cs)))
    {items : List Expr} {outer : List (List Expr)} (hitems : ∀ e ∈ items, P e)
    (houter : ∀ es ∈ outer, ∀ e ∈ es, P e) : P (readList outer items ls) := by
  have hclosed : ∀ items : List Expr,
      (∀ e ∈ items, P e) → P (.list items.reverse) :=
    fun items h => hlist _ fun e he => h e (List.mem_reverse.mp he)
  induction ls generalizing items outer with
  | nil =>
      rw [readList]
      induction outer generalizing items with
      | nil => exact hclosed items hitems
      | cons around outer ih =>
          obtain ⟨haround, houter⟩ := List.forall_mem_cons.mp houter
          exact ih (List.forall_mem_cons.mpr ⟨hclosed items hitems, haround⟩)
            houter
  | cons l ls ih =>
      have hrest := @ih (fun cs h => hword cs (List.mem_cons_of_mem l h))
        (fun mark cs h => hquoted mark cs (List.mem_cons_of_mem l h))
      cases l with
      | opening =>
          exact hrest (by simp) (List.forall_mem_cons.mpr ⟨hitems, houter⟩)
      | closing =>
          cases outer with
          | nil => exact hclosed items hitems
          | cons around outer =>
              obtain ⟨haround, houter⟩ := List.forall_mem_cons.mp houter
              exact hrest
                (List.forall_mem_cons.mpr ⟨hclosed items hitems, haround⟩)
                  houter
      | word cs =>
          have hfirst := hword cs List.mem_cons_self
          exact hrest (List.forall_mem_cons.mpr ⟨hfirst, hitems⟩) houter
      | quoted mark cs =>
          have hfirst := hquoted mark cs List.mem_cons_self
          exact hrest (List.forall_mem_cons.mpr ⟨hfirst, hitems⟩) houter

/-! ## The count of open lists -/

/-- The lexemes complete that many open lists, the innermost first: the items
that it still lacks, its closing parenthesis, and then the same for the lists
around it. -/
inductive Completes : Nat → List Lexeme → Prop where
  | zero : Completes 0 []
  | succ {depth : Nat} {ls ms : List Lexeme} {es : List Expr}
      (hitems : DerivesAll ls es) (hrest : Completes depth ms) :
      Completes (depth + 1) (ls ++ .closing :: ms)

theorem Completes.cons {depth : Nat} {ls ms : List Lexeme} {e : Expr}
    (h : Derives ls e)
    (hrest : Completes (depth + 1) ms) : Completes (depth + 1) (ls ++ ms) := by
  cases hrest with
  | succ hitems hrest =>
      rw [← List.append_assoc]
      exact .succ (.cons h hitems) hrest

/-- A list that is opened and completed is an item of the list around it. -/
theorem Completes.opening {depth : Nat} {ms : List Lexeme}
    (h : Completes (depth + 2) ms) :
    Completes (depth + 1) (.opening :: ms) := by
  cases h with
  | @succ _ ls ms es hitems hrest =>
      have hlist := Completes.cons (.list hitems) hrest
      simpa using hlist

theorem afterLists?_sound {depth : Nat} {ls rest : List Located}
    (h : afterLists? depth ls = some rest) :
    ∃ consumed, ls = consumed ++ rest ∧
      Completes depth (consumed.map (·.lexeme)) := by
  induction ls generalizing depth with
  | nil =>
      cases depth with
      | zero => exact ⟨[], by simpa [afterLists?] using h, .zero⟩
      | succ depth => simp [afterLists?] at h
  | cons l ls ih =>
      cases depth with
      | zero => exact ⟨[], by simpa [afterLists?] using h, .zero⟩
      | succ depth =>
          rw [afterLists?] at h
          cases hl : l.lexeme with
          | opening =>
              obtain ⟨consumed, rfl, hdone⟩ := ih (by simpa [hl] using h)
              exact ⟨l :: consumed, rfl, by simpa [hl] using hdone.opening⟩
          | closing =>
              obtain ⟨consumed, rfl, hdone⟩ := ih (by simpa [hl] using h)
              exact ⟨l :: consumed,
                rfl, by simpa [hl] using Completes.succ .nil hdone⟩
          | word cs =>
              obtain ⟨consumed, rfl, hdone⟩ := ih (by simpa [hl] using h)
              exact ⟨l :: consumed,
                rfl, by simpa [hl] using hdone.cons (.word cs)⟩
          | quoted mark cs =>
              obtain ⟨consumed, rfl, hdone⟩ := ih (by simpa [hl] using h)
              exact ⟨l :: consumed,
                rfl, by simpa [hl] using hdone.cons (.quoted mark cs)⟩

mutual

/-- The lexemes of an expression leave the count of open lists as it was. -/
theorem Derives.afterLists?_append {ls : List Lexeme} {e : Expr}
    (h : Derives ls e)
    (depth : Nat) {consumed : List Located} (hls : consumed.map (·.lexeme) = ls)
    (rest : List Located) :
    afterLists? (depth + 1) (consumed ++ rest) =
      afterLists? (depth + 1) rest := by
  cases h with
  | word cs =>
      obtain ⟨l, rfl, hl⟩ := List.map_eq_singleton_iff.mp hls
      simp [afterLists?, hl]
  | quoted mark cs =>
      obtain ⟨l, rfl, hl⟩ := List.map_eq_singleton_iff.mp hls
      simp [afterLists?, hl]
  | list hitems =>
      obtain ⟨front, last, rfl, hfront, hlast⟩ := List.map_eq_append_iff.mp hls
      obtain ⟨first, items, rfl, hfirst, hmiddle⟩ :=
        List.map_eq_cons_iff.mp hfront
      obtain ⟨close, rfl, hclose⟩ := List.map_eq_singleton_iff.mp hlast
      simp only [List.cons_append, List.append_assoc, afterLists?, hfirst]
      rw [hitems.afterLists?_append (depth + 1) hmiddle]
      simp [afterLists?, hclose]

theorem DerivesAll.afterLists?_append {ls : List Lexeme} {es : List Expr}
    (h : DerivesAll ls es)
    (depth : Nat) {consumed : List Located} (hls : consumed.map (·.lexeme) = ls)
    (rest : List Located) :
    afterLists? (depth + 1) (consumed ++ rest) =
      afterLists? (depth + 1) rest := by
  cases h with
  | nil =>
      obtain rfl := List.map_eq_nil_iff.mp hls
      rfl
  | cons hhead htail =>
      obtain ⟨front, back, rfl, hfront, hback⟩ := List.map_eq_append_iff.mp hls
      rw [List.append_assoc, hhead.afterLists?_append depth hfront,
        htail.afterLists?_append depth hback]

end

theorem Completes.afterLists?_append {depth : Nat} {ls : List Lexeme}
    (h : Completes depth ls)
    {consumed : List Located} (hls : consumed.map (·.lexeme) = ls)
    (rest : List Located) :
    afterLists? depth (consumed ++ rest) = some rest := by
  induction h generalizing consumed with
  | zero =>
      obtain rfl := List.map_eq_nil_iff.mp hls
      cases rest <;> rfl
  | succ hitems _ ih =>
      obtain ⟨front, back, rfl, hfront, hback⟩ := List.map_eq_append_iff.mp hls
      obtain ⟨close, outer, rfl, hclose, houter⟩ :=
        List.map_eq_cons_iff.mp hback
      rw [List.append_assoc, hitems.afterLists?_append _ hfront]
      simpa [afterLists?, hclose] using ih houter

theorem afterLists?_append {depth : Nat} {ls rest : List Located}
    (h : afterLists? depth ls = some rest) (more : List Located) :
    afterLists? depth (ls ++ more) = some (rest ++ more) := by
  obtain ⟨consumed, rfl, hdone⟩ := afterLists?_sound h
  rw [List.append_assoc]
  exact hdone.afterLists?_append rfl (rest ++ more)

private theorem afterLists?_replicate_closing (depth : Nat) {ls : List Located}
    (hls : ls.map (·.lexeme) = List.replicate depth .closing) :
    afterLists? depth ls = some [] := by
  induction depth generalizing ls with
  | zero =>
      obtain rfl := List.map_eq_nil_iff.mp hls
      rfl
  | succ depth ih =>
      obtain ⟨l, rest, rfl, hl, hrest⟩ := List.map_eq_cons_iff.mp hls
      simpa [afterLists?, hl] using ih hrest

/-- Lists that are open at the end of the text are completed by closing
parentheses. -/
theorem exists_closing_of_afterLists?_eq_none {depth : Nat} {ls : List Located}
    (h : afterLists? depth ls = none) :
    ∃ k, 1 ≤ k ∧ ∀ more : List Located,
      more.map (·.lexeme) = List.replicate k .closing →
        afterLists? depth (ls ++ more) = some [] := by
  induction ls generalizing depth with
  | nil =>
      cases depth with
      | zero => simp [afterLists?] at h
      | succ depth =>
          exact ⟨depth + 1, by omega, fun _ => afterLists?_replicate_closing _⟩
  | cons l ls ih =>
      cases depth with
      | zero => simp [afterLists?] at h
      | succ depth =>
          rw [afterLists?] at h
          cases hl : l.lexeme <;>
          · obtain ⟨k, hk, hclosed⟩ := ih (by simpa [hl] using h)
            exact ⟨k, hk, fun more hmore => by
              simpa [afterLists?, hl] using hclosed more hmore⟩

/-! ## The first expression of a text -/

/-- The lexemes behind the first expression, if it is complete. -/
def afterFirst? : List Located → Option (List Located)
  | [] => none
  | first :: rest =>
    match first.lexeme with
    | .opening => afterLists? 1 rest
    | .closing => none
    | _ => some rest

theorem afterFirst?_eq_some_iff {ls rest : List Located} :
    afterFirst? ls = some rest ↔
      ∃ consumed e, ls = consumed ++ rest ∧
      Derives (consumed.map (·.lexeme)) e := by
  constructor
  · intro h
    cases ls with
    | nil => simp [afterFirst?] at h
    | cons first ls =>
        rw [afterFirst?] at h
        cases hfirst : first.lexeme with
        | opening =>
            obtain ⟨consumed, rfl, hdone⟩ :=
              afterLists?_sound (by simpa [hfirst] using h)
            generalize hms : consumed.map (·.lexeme) = ms at hdone
            cases hdone with
            | succ hitems hrest =>
                cases hrest with
                | zero =>
                    exact ⟨first :: consumed, _,
                      rfl, by simpa [hfirst, hms] using .list hitems⟩
        | closing => simp [hfirst] at h
        | word cs =>
            obtain rfl : ls = rest := by simpa [hfirst] using h
            exact ⟨[first], _, rfl, by simpa [hfirst] using .word cs⟩
        | quoted mark cs =>
            obtain rfl : ls = rest := by simpa [hfirst] using h
            exact ⟨[first], _, rfl, by simpa [hfirst] using .quoted mark cs⟩
  · rintro ⟨consumed, e, rfl, hderives⟩
    generalize hls : consumed.map (·.lexeme) = ls at hderives
    cases hderives with
    | word cs =>
        obtain ⟨l, rfl, hl⟩ := List.map_eq_singleton_iff.mp hls
        simp [afterFirst?, hl]
    | quoted mark cs =>
        obtain ⟨l, rfl, hl⟩ := List.map_eq_singleton_iff.mp hls
        simp [afterFirst?, hl]
    | @list items es hitems =>
        obtain ⟨first, tail, rfl, hfirst, htail⟩ := List.map_eq_cons_iff.mp hls
        simp only [List.cons_append, afterFirst?, hfirst]
        exact (Completes.succ hitems .zero).afterLists?_append htail rest

/-- No expression begins with another complete expression. -/
theorem Derives.append_eq_nil {ls ms : List Lexeme} {e e' : Expr}
    (h : Derives ls e) (hmore : Derives (ls ++ ms) e') : ms = [] := by
  have hplace : ∀ ks : List Lexeme,
      (ks.map (Located.mk · 0)).map (·.lexeme) = ks := by
    intro ks
    simp [Function.comp_def]
  have hfirst : afterFirst? ((ls ++ ms).map (Located.mk · 0)) =
      some (ms.map (Located.mk · 0)) :=
    afterFirst?_eq_some_iff.mpr
      ⟨ls.map (Located.mk · 0), e, by simp, by rwa [hplace]⟩
  have hall : afterFirst? ((ls ++ ms).map (Located.mk · 0)) = some [] :=
    afterFirst?_eq_some_iff.mpr
      ⟨(ls ++ ms).map (Located.mk · 0), e', by simp, by rwa [hplace]⟩
  rw [hfirst] at hall
  simpa using hall

theorem exists_derives_append_closing {first : Located} {rest : List Located}
    (hfirst : first.lexeme ≠ .closing)
    (hopen : afterFirst? (first :: rest) = none) :
    ∃ k e, 1 ≤ k ∧
      Derives ((first :: rest).map (·.lexeme) ++ List.replicate k .closing)
        e := by
  rw [afterFirst?] at hopen
  cases hlexeme : first.lexeme with
  | opening =>
      obtain ⟨k, hk, hclosed⟩ :=
        exists_closing_of_afterLists?_eq_none (by simpa [hlexeme] using hopen)
      have hdone : afterFirst?
          (first :: rest ++ List.replicate k ⟨.closing, 0⟩) = some [] := by
        simpa [afterFirst?, hlexeme]
          using hclosed (List.replicate k ⟨.closing, 0⟩) (by simp)
      obtain ⟨consumed, e, hsplit, hderives⟩ := afterFirst?_eq_some_iff.mp hdone
      refine ⟨k, e, hk, ?_⟩
      rw [List.append_nil] at hsplit
      rw [← hsplit] at hderives
      simpa using hderives
  | closing => exact absurd hlexeme hfirst
  | word cs => simp [hlexeme] at hopen
  | quoted mark cs => simp [hlexeme] at hopen

theorem closing_count_unique {ls : List Lexeme} {j k : Nat} {e e' : Expr}
    (hj : Derives (ls ++ List.replicate j .closing) e)
    (hk : Derives (ls ++ List.replicate k .closing) e') : j = k := by
  wlog hle : j ≤ k generalizing j k e e'
  · exact (this hk hj (Nat.le_of_not_le hle)).symm
  obtain ⟨n, rfl⟩ := Nat.exists_eq_add_of_le hle
  rw [List.replicate_add, ← List.append_assoc] at hk
  have hnil := hj.append_eq_nil hk
  have hzero : n = 0 := by simpa using hnil
  rw [hzero, Nat.add_zero]

end Expr
end Phrasebook

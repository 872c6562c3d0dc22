import Phrasebook.Proofs.Text.Run
import Phrasebook.Expr.Parser

/-!
# The lexemes of a text

A lexeme at the beginning of a text is determined by two things: its own
characters, which are well formed, and the text behind it, which does not
continue it. From this a text is read as lexemes and skipped characters in turn,
and every later statement about lexemes is an induction along that reading. Two
consequences matter for parsing: closing parentheses put behind a text become
lexemes of their own, and cutting a text before one of its lexemes keeps the
lexemes before it.
-/

namespace Phrasebook

@[simp] theorem Text.byteLength_nil : byteLength [] = 0 := rfl

@[simp] theorem Text.byteLength_cons (c : Char) (s : List Char) :
    byteLength (c :: s) = c.utf8Size + byteLength s := rfl

@[simp] theorem Text.byteLength_append (s t : List Char) :
    byteLength (s ++ t) = byteLength s + byteLength t := by
  induction s with
  | nil => simp
  | cons c s ih => simp [ih, Nat.add_assoc]

namespace Lexeme

open Text (Stops)

/-- The characters of a word, with the class of characters that would continue
it. -/
inductive Run : List Char → (Char → Bool) → Prop where
  | word {cs : List Char} (hne : cs ≠ [])
      (hcs : ∀ c ∈ cs, isWordChar c = true) :
      Run cs isWordChar
  | sigil {cs : List Char} (hne : cs ≠ [])
      (hcs : ∀ c ∈ cs, isWordChar c = true) :
      Run ('@' :: cs) isWordChar
  | operator {cs : List Char} (hne : cs ≠ [])
      (hcs : ∀ c ∈ cs, isOperatorChar c = true) :
      Run cs isOperatorChar

/-- The lexemes that can be read from a text. -/
inductive WellFormed : Lexeme → Prop where
  | opening : WellFormed .opening
  | closing : WellFormed .closing
  | word {cs : List Char} {p : Char → Bool} (hrun : Run cs p) :
      WellFormed (.word cs)
  | quoted {mark : Char} {cs : List Char} (hmark : isQuote mark = true)
      (hcs : mark ∉ cs) :
      WellFormed (.quoted mark cs)

/-- The text does not continue a lexeme that stands before it. -/
def EndsBefore (l : Lexeme) (tail : List Char) : Prop :=
  match l with
  | .word cs => ∀ p, Run cs p → Stops p tail
  | _ => True

/-- The text continues neither a word nor an operator. -/
def Breaks (tail : List Char) : Prop :=
  Stops isWordChar tail ∧ Stops isOperatorChar tail

theorem Breaks.endsBefore {tail : List Char} (h : Breaks tail) (l : Lexeme) :
    l.EndsBefore tail := by
  cases l with
  | word cs =>
      intro p hp
      cases hp with
      | word => exact h.1
      | sigil => exact h.1
      | operator => exact h.2
  | _ => trivial

theorem EndsBefore.of_isPrefix {l : Lexeme} {s t : List Char}
    (h : l.EndsBefore t) (hst : s <+: t) : l.EndsBefore s := by
  cases l with
  | word cs => exact fun p hp => (h p hp).of_isPrefix hst
  | _ => trivial

theorem EndsBefore.append {l : Lexeme} {s t : List Char}
    (hs : l.EndsBefore s) (ht : l.EndsBefore t) : l.EndsBefore (s ++ t) := by
  cases l with
  | word cs => exact fun p hp => (hs p hp).append (ht p hp)
  | _ => trivial

/-! ## Classes of characters -/

theorem isOperatorChar_of_isWordChar {c : Char} (h : isWordChar c = true) :
    isOperatorChar c = false := by
  by_contra hop
  have hmem : c ∈ ['+', '-', '!', '|', '=', '>', '<', '&', '*', '/', '%'] := by
    simpa only [isOperatorChar, List.contains_iff_mem, Bool.not_eq_false]
      using hop
  revert h
  fin_cases hmem <;> decide

theorem isQuote_iff {c : Char} : isQuote c = true ↔ c = '"' ∨ c = '\x27' := by
  simp [isQuote]

/-- A run has one class, since no character belongs to both. -/
theorem Run.class_unique {cs : List Char} {p q : Char → Bool}
    (hp : Run cs p) (hq : Run cs q) : p = q := by
  cases hp with
  | word hne hcs =>
      cases hq with
      | word => rfl
      | sigil => rfl
      | operator _ hops =>
          obtain ⟨c, hc⟩ := List.exists_mem_of_ne_nil cs hne
          simpa [isOperatorChar_of_isWordChar (hcs c hc)] using hops c hc
  | sigil =>
      cases hq with
      | word => rfl
      | sigil => rfl
      | operator _ hops => exact absurd (hops '@' (by simp)) (by decide)
  | operator hne hops =>
      cases hq with
      | word _ hcs =>
          obtain ⟨c, hc⟩ := List.exists_mem_of_ne_nil cs hne
          simpa [isOperatorChar_of_isWordChar (hcs c hc)] using hops c hc
      | sigil => exact absurd (hops '@' (by simp)) (by decide)
      | operator => rfl

theorem endsBefore_word_iff {cs tail : List Char} {p : Char → Bool}
    (h : Run cs p) :
    EndsBefore (.word cs) tail ↔ Stops p tail := by
  constructor
  · intro hends
    exact hends p h
  · intro hstops q hq
    rwa [← h.class_unique hq]

/-! ## The lexeme at the beginning of a text -/

/-- What is read at the beginning of a text is well formed, takes up the
beginning of the text, and is as long as it can be. -/
theorem begin?_sound {c : Char} {rest : List Char} {l : Lexeme}
    (h : begin? c rest = some l) :
    ∃ tail, c :: rest = l.source ++ tail ∧ l.WellFormed ∧
      l.EndsBefore tail := by
  unfold begin? at h
  split_ifs at h with hopen hclose hword hsigil hop hquote
  · obtain rfl := Option.some.inj h
    exact ⟨rest, by simp [source, hopen], .opening, trivial⟩
  · obtain rfl := Option.some.inj h
    exact ⟨rest, by simp [source, hclose], .closing, trivial⟩
  · obtain rfl := Option.some.inj h
    have hrun : Run (c :: rest.takeWhile isWordChar) isWordChar := by
      refine .word (by simp) ?_
      intro d hd
      rcases List.mem_cons.mp hd with rfl | hd
      · exact hword
      · exact List.mem_takeWhile_imp hd
    refine ⟨rest.dropWhile isWordChar, by simp [source], .word hrun, ?_⟩
    exact (endsBefore_word_iff hrun).mpr (Text.stops_dropWhile rest)
  · split at h
    · simp at h
    · rename_i hname
      obtain rfl := Option.some.inj h
      have hrun : Run ('@' :: rest.takeWhile isWordChar) isWordChar :=
        .sigil hname fun d hd => List.mem_takeWhile_imp hd
      refine ⟨rest.dropWhile isWordChar, by simp [source, hsigil],
        .word hrun, ?_⟩
      exact (endsBefore_word_iff hrun).mpr (Text.stops_dropWhile rest)
  · obtain rfl := Option.some.inj h
    have hrun : Run (c :: rest.takeWhile isOperatorChar) isOperatorChar := by
      refine .operator (by simp) ?_
      intro d hd
      rcases List.mem_cons.mp hd with rfl | hd
      · exact hop
      · exact List.mem_takeWhile_imp hd
    refine ⟨rest.dropWhile isOperatorChar, by simp [source], .word hrun, ?_⟩
    exact (endsBefore_word_iff hrun).mpr (Text.stops_dropWhile rest)
  · obtain rfl := Option.some.inj h
    simp only [Bool.and_eq_true, List.contains_iff_mem] at hquote
    obtain ⟨hmark, hmem⟩ := hquote
    obtain ⟨body, tail, rfl, hbody⟩ := List.eq_append_cons_of_mem hmem
    have htake : (body ++ c :: tail).takeWhile (· != c) = body := by
      refine Text.takeWhile_append_of_stops ?_ (by simp)
      intro d hd
      simpa using ne_of_mem_of_not_mem hd hbody
    rw [htake]
    exact ⟨tail, by simp [source], .quoted hmark hbody, trivial⟩

/-- A well formed lexeme is read where its characters stand, unless the text
behind continues it. -/
theorem begin?_complete {c : Char} {rest tail : List Char} {l : Lexeme}
    (hsource : c :: rest = l.source ++ tail) (hl : l.WellFormed)
    (htail : l.EndsBefore tail) :
    begin? c rest = some l := by
  cases hl with
  | opening =>
      obtain ⟨rfl, rfl⟩ : c = '(' ∧ rest = tail := by
        simpa [source] using hsource
      rfl
  | closing =>
      obtain ⟨rfl, rfl⟩ : c = ')' ∧ rest = tail := by
        simpa [source] using hsource
      rfl
  | @word cs p hrun =>
      have hstops : Stops p tail := htail p hrun
      cases hrun with
      | word hne hcs =>
          cases cs with
          | nil => exact absurd rfl hne
          | cons d cs =>
              obtain ⟨rfl, rfl⟩ : c = d ∧ rest = cs ++ tail := by
                simpa [source] using hsource
              have hword : isWordChar c = true := hcs c (by simp)
              have hopen : c ≠ '(' := by
                rintro rfl; exact absurd hword (by decide)
              have hclose : c ≠ ')' := by
                rintro rfl; exact absurd hword (by decide)
              have hrest : ∀ d ∈ cs, isWordChar d = true :=
                fun d hd => hcs d (by simp [hd])
              simp [begin?, hopen, hclose, hword,
                Text.takeWhile_append_of_stops hrest hstops]
      | @sigil cs hne hcs =>
          obtain ⟨rfl, rfl⟩ : c = '@' ∧ rest = cs ++ tail := by
            simpa [source] using hsource
          have hname : (cs ++ tail).takeWhile isWordChar = cs :=
            Text.takeWhile_append_of_stops hcs hstops
          have hat : isWordChar '@' = false := by decide
          cases cs with
          | nil => exact absurd rfl hne
          | cons d cs => simp only [begin?, hname, hat]; rfl
      | operator hne hcs =>
          cases cs with
          | nil => exact absurd rfl hne
          | cons d cs =>
              obtain ⟨rfl, rfl⟩ : c = d ∧ rest = cs ++ tail := by
                simpa [source] using hsource
              have hop : isOperatorChar c = true := hcs c (by simp)
              have hopen : c ≠ '(' := by
                rintro rfl; exact absurd hop (by decide)
              have hclose : c ≠ ')' := by
                rintro rfl; exact absurd hop (by decide)
              have hat : c ≠ '@' := by rintro rfl; exact absurd hop (by decide)
              have hword : isWordChar c = false := by
                by_contra hword
                simp [isOperatorChar_of_isWordChar (by simpa using hword)]
                  at hop
              have hrest : ∀ d ∈ cs, isOperatorChar d = true :=
                fun d hd => hcs d (by simp [hd])
              simp [begin?, hopen, hclose, hat, hword, hop,
                Text.takeWhile_append_of_stops hrest hstops]
  | @quoted mark cs hmark hcs =>
      obtain ⟨rfl, rfl⟩ : c = mark ∧ rest = cs ++ mark :: tail := by
        simpa [source] using hsource
      have htake : (cs ++ c :: tail).takeWhile (· != c) = cs := by
        refine Text.takeWhile_append_of_stops ?_ (by simp)
        intro d hd
        simpa using ne_of_mem_of_not_mem hd hcs
      have hmem : (cs ++ c :: tail).contains c = true := by simp
      rcases isQuote_iff.mp hmark with rfl | rfl
      · simp only [begin?, htake, hmem, hmark]; rfl
      · simp only [begin?, htake, hmem, hmark]; rfl

/-- A character is skipped when it is no parenthesis, cannot be in a word or an
operator, is no at sign with a name behind it, and is no quotation mark that
comes again. -/
theorem begin?_eq_none_iff {c : Char} {rest : List Char} :
    begin? c rest = none ↔
      c ≠ '(' ∧ c ≠ ')' ∧ isWordChar c = false ∧ isOperatorChar c = false ∧
        (c = '@' → Stops isWordChar rest) ∧ (isQuote c = true → c ∉ rest) := by
  constructor
  · intro h
    unfold begin? at h
    split_ifs at h with hopen hclose hword hsigil hop hquote
    · split at h
      · rename_i hname
        subst hsigil
        refine ⟨by decide, by decide, by simpa using hword, by decide, ?_, ?_⟩
        · exact fun _ => Text.stops_iff_takeWhile_eq_nil.mpr hname
        · exact fun hmark => absurd hmark (by decide)
      · simp at h
    · refine ⟨hopen,
        hclose, by simpa using hword, by simpa using hop, by simp [hsigil], ?_⟩
      intro hmark hmem
      exact hquote (by simp [hmark, hmem])
  · rintro ⟨hopen, hclose, hword, hop, hsigil, hquote⟩
    by_cases hat : c = '@'
    · have hname : rest.takeWhile isWordChar = [] :=
        Text.stops_iff_takeWhile_eq_nil.mp (hsigil hat)
      subst hat
      simp [begin?, hword, hname]
    · simpa [begin?, hopen, hclose, hword, hop, hat] using hquote

/-! ## Reading a text -/

theorem WellFormed.source_ne_nil {l : Lexeme} (h : l.WellFormed) :
    l.source ≠ [] := by
  cases h with
  | opening => simp [source]
  | closing => simp [source]
  | word hrun =>
      cases hrun with
      | word hne => exact hne
      | sigil => simp [source]
      | operator hne => exact hne
  | quoted => simp [source]

/-- A text is empty, or begins with a character that is skipped, or with a
lexeme. -/
theorem reading_induction {motive : List Char → Prop} (nil : motive [])
    (skip : ∀ c rest, begin? c rest = none → motive rest → motive (c :: rest))
    (lexeme : ∀ l tail, WellFormed l → EndsBefore l tail → motive tail →
      motive (l.source ++ tail))
    (s : List Char) : motive s := by
  induction hn : s.length using Nat.strong_induction_on generalizing s with
  | _ n ih =>
      cases s with
      | nil => exact nil
      | cons c rest =>
          cases hbegin : begin? c rest with
          | none =>
              exact skip c rest hbegin
                (ih rest.length (by simp [← hn]) rest rfl)
          | some l =>
              obtain ⟨tail, hsource, hl, htail⟩ := begin?_sound hbegin
              rw [hsource]
              have hpos : 0 < l.source.length :=
                List.length_pos_iff.mpr hl.source_ne_nil
              have hlength := congrArg List.length hsource
              rw [List.length_append] at hlength
              exact lexeme l tail hl htail (ih tail.length (by omega) tail rfl)

theorem lexFrom_skip (offset n : Nat) (s : List Char) :
    lexFrom offset n s = lexFrom (offset + Text.byteLength (s.take n)) 0
      (s.drop n) := by
  induction s generalizing offset n with
  | nil => cases n <;> simp [lexFrom]
  | cons c rest ih =>
      cases n with
      | zero => simp
      | succ n =>
          rw [lexFrom, ih]
          simp [Nat.add_assoc]

theorem lexFrom_cons_of_none {offset : Nat} {c : Char} {rest : List Char}
    (h : begin? c rest = none) :
    lexFrom offset 0 (c :: rest) = lexFrom (offset + c.utf8Size) 0 rest := by
  simp [lexFrom, h]

theorem lexFrom_source_append {offset : Nat} {l : Lexeme} {tail : List Char}
    (hl : l.WellFormed) (htail : l.EndsBefore tail) :
    lexFrom offset 0 (l.source ++ tail) =
      ⟨l, offset⟩ :: lexFrom (offset + Text.byteLength l.source) 0 tail := by
  obtain ⟨c, cs, hsource⟩ := List.exists_cons_of_ne_nil hl.source_ne_nil
  have hbegin : begin? c (cs ++ tail) = some l :=
    begin?_complete (by simp [hsource]) hl htail
  rw [hsource, List.cons_append, lexFrom, hbegin]
  simp only [hsource, List.length_cons, Nat.add_sub_cancel]
  rw [lexFrom_skip]
  simp [Nat.add_assoc]

def lexemes (s : List Char) : List Lexeme :=
  (lex s).map (·.lexeme)

private theorem map_lexeme_lexFrom (offset n : Nat) (s : List Char) :
    (lexFrom offset n s).map (·.lexeme) = (lexFrom 0 n s).map (·.lexeme) := by
  have hzero : ∀ s offset, (lexFrom offset 0 s).map (·.lexeme) = lexemes s := by
    intro s
    induction s using reading_induction with
    | nil => simp [lexFrom, lexemes, lex]
    | skip c rest hnone ih =>
        intro offset
        rw [lexemes, lex, lexFrom_cons_of_none hnone,
          lexFrom_cons_of_none hnone, ih, ih]
    | lexeme l tail hl htail ih =>
        intro offset
        rw [lexemes, lex, lexFrom_source_append hl htail,
          lexFrom_source_append hl htail]
        simp [ih]
  rw [lexFrom_skip, hzero, lexFrom_skip 0, hzero]

@[simp] theorem lexemes_nil : lexemes [] = [] := rfl

theorem lexemes_cons_of_none {c : Char} {rest : List Char}
    (h : begin? c rest = none) :
    lexemes (c :: rest) = lexemes rest := by
  rw [lexemes, lex, lexFrom_cons_of_none h, map_lexeme_lexFrom, lexemes, lex]

theorem lexemes_source_append {l : Lexeme} {tail : List Char}
    (hl : l.WellFormed) (htail : l.EndsBefore tail) :
    lexemes (l.source ++ tail) = l :: lexemes tail := by
  rw [lexemes, lex, lexFrom_source_append hl htail, List.map_cons,
    map_lexeme_lexFrom, lexemes, lex]

theorem wellFormed_of_mem_lexemes {s : List Char} :
    ∀ l ∈ lexemes s, l.WellFormed := by
  induction s using reading_induction with
  | nil => simp
  | skip c rest hnone ih => rwa [lexemes_cons_of_none hnone]
  | lexeme l tail hl htail ih =>
      rw [lexemes_source_append hl htail]
      intro l' hmem
      rcases List.mem_cons.mp hmem with rfl | hmem
      · exact hl
      · exact ih l' hmem

/-! ## Closing parentheses behind a text -/

theorem breaks_replicate_closing (k : Nat) : Breaks (List.replicate k ')') := by
  cases k with
  | zero => exact ⟨by simp, by simp⟩
  | succ k =>
      exact ⟨by simp [List.replicate_succ]; decide, by
        simp [List.replicate_succ]; decide⟩

theorem lexemes_replicate_closing (k : Nat) :
    lexemes (List.replicate k ')') = List.replicate k .closing := by
  induction k with
  | zero => rfl
  | succ k ih =>
      rw [List.replicate_succ, List.replicate_succ, ← ih]
      exact lexemes_source_append .closing trivial

/-- Closing parentheses behind a text are lexemes of their own: they continue no
word, complete no at sign, and close no quotation mark. -/
theorem lexemes_append_closing (s : List Char) (k : Nat) :
    lexemes (s ++ List.replicate k ')') =
      lexemes s ++ List.replicate k .closing := by
  induction s using reading_induction with
  | nil => simpa using lexemes_replicate_closing k
  | skip c rest hnone ih =>
      have hmore : begin? c (rest ++ List.replicate k ')') = none := by
        rw [begin?_eq_none_iff] at hnone ⊢
        obtain ⟨hopen, hclose, hword, hop, hsigil, hquote⟩ := hnone
        refine ⟨hopen, hclose, hword, hop, ?_, ?_⟩
        · exact fun hat => (hsigil hat).append (breaks_replicate_closing k).1
        · intro hmark hmem
          rcases List.mem_append.mp hmem with hmem | hmem
          · exact hquote hmark hmem
          · exact hclose (List.eq_of_mem_replicate hmem)
      rw [List.cons_append, lexemes_cons_of_none hmore,
        lexemes_cons_of_none hnone, ih]
  | lexeme l tail hl htail ih =>
      have hends : l.EndsBefore (tail ++ List.replicate k ')') :=
        htail.append ((breaks_replicate_closing k).endsBefore l)
      rw [List.append_assoc, lexemes_source_append hl hends,
        lexemes_source_append hl htail, ih, List.cons_append]

end Lexeme
end Phrasebook

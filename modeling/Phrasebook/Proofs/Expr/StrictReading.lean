import Phrasebook.Proofs.Expr.Grammar

/-!
# Strict reading

The strict reader accepts exactly the texts whose lexemes form one expression,
and for any other text it names the first thing that is wrong and its place.
Where lists are left open, the lenient reader gives the tree of the text with
the missing parentheses put behind it, and there is only one number of
parentheses that completes the text.
-/

namespace Phrasebook
namespace Lexeme

/-- The lexeme number `i` of a text begins right behind `before`. -/
structure BeginsBehind (s : List Char) (i : Nat) (before : List Char) :
    Prop where
  source : ∃ l after, (lexemes s)[i]? = some l ∧ s = before ++ l.source ++ after
  earlier : lexemes before = (lexemes s).take i

/-- The recorded offset of a lexeme is the length of the text before it, and
that text has the earlier lexemes and no other. -/
theorem lexFrom_beginsBehind {s : List Char} {i offset : Nat} {x : Located}
    (h : (lexFrom offset 0 s)[i]? = some x) :
    ∃ before, BeginsBehind s i before ∧
      x.offset = offset + Text.byteLength before := by
  induction s using reading_induction generalizing i offset with
  | nil => simp [lexFrom] at h
  | skip c rest hnone ih =>
      rw [lexFrom_cons_of_none hnone] at h
      obtain ⟨before, ⟨⟨l, after, hl, hrest⟩, hearlier⟩, hoffset⟩ := ih h
      have hskip : begin? c before = none := by
        rw [begin?_eq_none_iff] at hnone ⊢
        obtain ⟨hopen, hclose, hword, hop, hsigil, hquote⟩ := hnone
        have hbefore : before <+: rest := ⟨l.source ++ after, by simp [hrest]⟩
        refine ⟨hopen, hclose, hword, hop,
          fun hat => (hsigil hat).of_isPrefix hbefore, ?_⟩
        exact fun hmark hmem => hquote hmark (hbefore.subset hmem)
      refine ⟨c :: before, ⟨⟨l, after, ?_, by simp [hrest]⟩, ?_⟩, ?_⟩
      · rwa [lexemes_cons_of_none hnone]
      · rw [lexemes_cons_of_none hskip, lexemes_cons_of_none hnone, hearlier]
      · simp [hoffset, Nat.add_assoc]
  | lexeme l tail hl htail ih =>
      rw [lexFrom_source_append hl htail] at h
      cases i with
      | zero =>
          obtain rfl : ⟨l, offset⟩ = x := by simpa using h
          refine ⟨[], ⟨⟨l, tail, ?_, by simp⟩, by simp⟩, by simp⟩
          rw [lexemes_source_append hl htail]
          rfl
      | succ i =>
          obtain ⟨before, ⟨⟨l', after, hl', hrest⟩, hearlier⟩, hoffset⟩ :=
            ih (by simpa using h)
          have hbefore : before <+: tail :=
            ⟨l'.source ++ after, by simp [hrest]⟩
          have hcut : l.EndsBefore before := htail.of_isPrefix hbefore
          refine ⟨l.source ++ before,
            ⟨⟨l', after, ?_, by simp [hrest]⟩, ?_⟩, ?_⟩
          · rw [lexemes_source_append hl htail]
            simpa using hl'
          · rw [lexemes_source_append hl hcut, lexemes_source_append hl htail,
              hearlier]
            rfl
          · simp [hoffset, Nat.add_assoc]

end Lexeme

namespace Expr

open Lexeme (Located lexemes BeginsBehind)

/-! ## Places -/

/-- The place lies right behind `before`: the line is one more than the line
ends in it, and the column one more than the bytes of its last line. -/
structure Position.Marks (p : Position) (before : List Char) : Prop where
  line : p.line = 1 + before.count '\n'
  column : ∃ lines current, before = lines ++ current ∧
    (lines = [] ∨ lines.getLast? = some '\n') ∧ '\n' ∉ current ∧
    p.column = 1 + Text.byteLength current

/-- The place is that of the lexeme number `i` of a text: it lies right behind
the text in front of the lexeme, which is as long as the offset that the lexeme
is read with, and has the earlier lexemes and no other. -/
def Position.Locates (p : Position) (s : String) (i : Nat) : Prop :=
  ∃ before x, (Lexeme.lex s.toList)[i]? = some x ∧
    x.offset = Text.byteLength before ∧ BeginsBehind s.toList i before ∧
    p.Marks before

theorem Position.after_marks (before : List Char) :
    (Position.after before).Marks before where
  line := Nat.add_comm _ _
  column := by
    refine ⟨(before.reverse.dropWhile (· != '\n')).reverse,
      (before.reverse.takeWhile (· != '\n')).reverse, ?_, ?_, ?_, ?_⟩
    · rw [← List.reverse_append, List.takeWhile_append_dropWhile,
        List.reverse_reverse]
    · have hstops := Text.stops_dropWhile (p := (· != '\n')) before.reverse
      cases hlines : before.reverse.dropWhile (· != '\n') with
      | nil => exact .inl rfl
      | cons c rest =>
          rw [hlines] at hstops
          right
          simpa using hstops
    · intro hmem
      have hne := List.mem_takeWhile_imp (List.mem_reverse.mp hmem)
      simp at hne
    · exact Nat.add_comm _ _

theorem beforeOffset_append (before after : List Char) :
    beforeOffset (Text.byteLength before) (before ++ after) = before := by
  induction before with
  | nil => cases after <;> simp [beforeOffset]
  | cons c before ih =>
      have hsize : ¬ c.utf8Size + Text.byteLength before = 0 := by
        have hpos := c.utf8Size_pos
        omega
      rw [Text.byteLength_cons, List.cons_append, beforeOffset, if_neg hsize,
        Nat.add_sub_cancel_left, ih]

def placeOf (s : List Char) (x : Located) : Position :=
  Position.after (beforeOffset x.offset s)

theorem placeOf_locates {s : String} {i : Nat} {x : Located}
    (h : (Lexeme.lex s.toList)[i]? = some x) :
    (placeOf s.toList x).Locates s i := by
  obtain ⟨before, hbegins, hoffset⟩ := Lexeme.lexFrom_beginsBehind h
  obtain ⟨l, after, -, hs⟩ := hbegins.source
  rw [Nat.zero_add] at hoffset
  refine ⟨before, x, h, hoffset, hbegins, ?_⟩
  have hbefore : beforeOffset x.offset s.toList = before := by
    rw [hoffset, hs, List.append_assoc]
    exact beforeOffset_append before (l.source ++ after)
  rw [placeOf, hbefore]
  exact Position.after_marks before

/-- A text has one place behind it. -/
theorem Position.Marks.eq_after {p : Position} {before : List Char}
    (h : p.Marks before) : p = Position.after before := by
  obtain ⟨lines, current, rfl, hlines, hcurrent, hcolumn⟩ := h.column
  have hline : ∀ c ∈ current.reverse, (c != '\n') = true := by
    intro c hc
    have hne := ne_of_mem_of_not_mem (List.mem_reverse.mp hc) hcurrent
    simpa using hne
  have hends : Text.Stops (· != '\n') lines.reverse := by
    rcases hlines with rfl | hlast
    · simp
    · obtain ⟨lines, rfl⟩ := List.getLast?_eq_some_iff.mp hlast
      simp
  have hlast : (lines ++ current).reverse.takeWhile (· != '\n') =
      current.reverse := by
    rw [List.reverse_append, Text.takeWhile_append_of_stops hline hends]
  have hp : p = ⟨p.line, p.column⟩ := rfl
  rw [hp, h.line, hcolumn, Position.after, hlast, List.reverse_reverse,
    Nat.add_comm 1, Nat.add_comm 1]

/-- A lexeme has one place. -/
theorem Position.Locates.unique {p q : Position} {s : String} {i : Nat}
    (hp : p.Locates s i) (hq : q.Locates s i) : p = q := by
  have hplace : ∀ {p : Position}, p.Locates s i →
      ∃ x, (Lexeme.lex s.toList)[i]? = some x ∧ p = placeOf s.toList x := by
    rintro p ⟨before, x, hx, hoffset, hbegins, hmarks⟩
    obtain ⟨l, after, -, hs⟩ := hbegins.source
    refine ⟨x, hx, ?_⟩
    rw [placeOf, hoffset, hs, List.append_assoc,
      beforeOffset_append before (l.source ++ after)]
    exact hmarks.eq_after
  obtain ⟨x, hx, rfl⟩ := hplace hp
  obtain ⟨y, hy, rfl⟩ := hplace hq
  rw [Option.some.inj (hx.symm.trans hy)]

/-! ## The answer of the strict reader -/

/-- The answers of the strict reader, each with what the lexemes are like where
it is given. -/
inductive Verdict (s : String) : Except ParseError Expr → Prop where
  | empty (hlex : Lexeme.lex s.toList = []) : Verdict s (.error .empty)
  | unexpectedClose {first : Located} {rest : List Located}
      (hlex : Lexeme.lex s.toList = first :: rest)
        (hfirst : first.lexeme = .closing) :
      Verdict s (.error (.unexpectedClose (placeOf s.toList first)))
  | unclosed {first : Located} {rest : List Located}
      (hlex : Lexeme.lex s.toList = first :: rest)
        (hfirst : first.lexeme ≠ .closing)
      (hopen : afterFirst? (Lexeme.lex s.toList) = none) :
      Verdict s (.error (.unclosed (placeOf s.toList first)))
  | trailingInput {next : Located} {rest : List Located}
      (hmore : afterFirst? (Lexeme.lex s.toList) = some (next :: rest)) :
      Verdict s (.error (.trailingInput (placeOf s.toList next)))
  | complete (hdone : afterFirst? (Lexeme.lex s.toList) = some []) :
      Verdict s (.ok (parse s))

theorem parse?_verdict (s : String) : Verdict s (parse? s) := by
  unfold parse?
  cases hlex : Lexeme.lex s.toList with
  | nil => exact .empty hlex
  | cons first rest =>
      cases hfirst : first.lexeme with
      | closing =>
          simpa [fault?, placeOf, hfirst]
            using Verdict.unexpectedClose hlex hfirst
      | opening =>
          cases hrest : afterLists? 1 rest with
          | none =>
              simpa [fault?, placeOf, hfirst, hrest]
                using Verdict.unclosed hlex (by simp [hfirst])
                (by simp [hlex, afterFirst?, hfirst, hrest])
          | some after =>
              have hafter : afterFirst? (Lexeme.lex s.toList) = some after := by
                simp [hlex, afterFirst?, hfirst, hrest]
              cases after with
              | nil =>
                  simpa [fault?, placeOf, hfirst, hrest]
                    using Verdict.complete hafter
              | cons next after =>
                  simpa [fault?, placeOf, hfirst, hrest]
                    using Verdict.trailingInput hafter
      | word cs =>
          have hafter : afterFirst? (Lexeme.lex s.toList) = some rest := by
            simp [hlex, afterFirst?, hfirst]
          cases rest with
          | nil => simpa [fault?, placeOf, hfirst] using Verdict.complete hafter
          | cons next rest =>
              simpa [fault?, placeOf, hfirst] using Verdict.trailingInput hafter
      | quoted mark cs =>
          have hafter : afterFirst? (Lexeme.lex s.toList) = some rest := by
            simp [hlex, afterFirst?, hfirst]
          cases rest with
          | nil => simpa [fault?, placeOf, hfirst] using Verdict.complete hafter
          | cons next rest =>
              simpa [fault?, placeOf, hfirst] using Verdict.trailingInput hafter

theorem afterFirst?_of_derives_take {ls : List Located} {i : Nat} {e : Expr}
    (h : Derives ((ls.map (·.lexeme)).take i) e) :
    afterFirst? ls = some (ls.drop i) := by
  rw [← List.map_take] at h
  exact afterFirst?_eq_some_iff.mpr
    ⟨ls.take i, e, (List.take_append_drop i ls).symm, h⟩

theorem exists_derives_take_of_afterFirst? {ls rest : List Located}
    (h : afterFirst? ls = some rest) :
    ∃ i e, ls.drop i = rest ∧ 0 < i ∧
      Derives ((ls.map (·.lexeme)).take i) e := by
  obtain ⟨consumed, e, rfl, hderives⟩ := afterFirst?_eq_some_iff.mp h
  refine ⟨consumed.length, e, by simp, ?_, by simpa using hderives⟩
  exact List.length_pos_iff.mpr fun hnil => hderives.ne_nil (by simp [hnil])

theorem derives_of_afterFirst?_eq_nil {s : String}
    (h : afterFirst? (Lexeme.lex s.toList) = some []) :
    Derives (lexemes s.toList) (parse s) := by
  obtain ⟨i, e, hdrop, -, hderives⟩ := exists_derives_take_of_afterFirst? h
  have htake : ((Lexeme.lex s.toList).map (·.lexeme)).take i =
      lexemes s.toList := by
    rw [← List.map_take, List.take_of_length_le (List.drop_eq_nil_iff.mp hdrop),
      lexemes]
  rw [htake] at hderives
  have heq : parse s = e := hderives.ofLexemes
  rwa [heq]

theorem afterFirst?_of_derives {s : String} {e : Expr}
    (h : Derives (lexemes s.toList) e) :
    afterFirst? (Lexeme.lex s.toList) = some [] := by
  have htake : ((Lexeme.lex s.toList).map (·.lexeme)).take
      (Lexeme.lex s.toList).length =
      lexemes s.toList := by
    rw [← List.map_take, List.take_length, lexemes]
  rw [← htake] at h
  rw [afterFirst?_of_derives_take h, List.drop_length]

theorem parse?_of_afterFirst?_eq_nil {s : String}
    (h : afterFirst? (Lexeme.lex s.toList) = some []) :
    parse? s = .ok (parse s) := by
  have hverdict := parse?_verdict s
  generalize parse? s = answer at hverdict ⊢
  cases hverdict with
  | empty hlex => simp [hlex, afterFirst?] at h
  | unexpectedClose hlex hfirst => simp [hlex, afterFirst?, hfirst] at h
  | unclosed hlex hfirst hopen => simp [hopen] at h
  | trailingInput hmore => simp [hmore] at h
  | complete hdone => rfl

/-- The strict reader accepts the derivations of the grammar, each with its
tree. -/
theorem parse?_eq_ok_iff {s : String} {e : Expr} :
    parse? s = .ok e ↔ Derives (lexemes s.toList) e := by
  constructor
  · intro h
    have hverdict := parse?_verdict s
    rw [h] at hverdict
    cases hverdict with
    | complete hdone => exact derives_of_afterFirst?_eq_nil hdone
  · intro h
    have heq : parse s = e := h.ofLexemes
    rw [← heq]
    exact parse?_of_afterFirst?_eq_nil (afterFirst?_of_derives h)

theorem parse?_eq_empty_iff {s : String} :
    parse? s = .error .empty ↔ lexemes s.toList = [] := by
  constructor
  · intro h
    have hverdict := parse?_verdict s
    rw [h] at hverdict
    cases hverdict with
    | empty hlex => simp [lexemes, hlex]
  · intro h
    have hlex : Lexeme.lex s.toList = [] := by simpa [lexemes] using h
    simp [parse?, hlex, fault?]

theorem exists_unexpectedClose_iff {s : String} :
    (∃ p, parse? s = .error (.unexpectedClose p)) ↔
      (lexemes s.toList).head? = some .closing := by
  constructor
  · rintro ⟨p, h⟩
    have hverdict := parse?_verdict s
    rw [h] at hverdict
    cases hverdict with
    | unexpectedClose hlex hfirst => simp [lexemes, hlex, hfirst]
  · intro h
    cases hlex : Lexeme.lex s.toList with
    | nil => simp [lexemes, hlex] at h
    | cons first rest =>
        have hfirst : first.lexeme = .closing := by
          simpa [lexemes, hlex] using h
        exact ⟨placeOf s.toList first, by
          simp [parse?, hlex, fault?, hfirst, placeOf]⟩

theorem exists_trailingInput_iff {s : String} :
    (∃ p, parse? s = .error (.trailingInput p)) ↔
      ∃ i e, 0 < i ∧ i < (lexemes s.toList).length ∧
      Derives ((lexemes s.toList).take i) e := by
  constructor
  · rintro ⟨p, h⟩
    have hverdict := parse?_verdict s
    rw [h] at hverdict
    cases hverdict with
    | @trailingInput next rest hmore =>
        obtain ⟨i, e, hdrop, hpos, hderives⟩ :=
          exists_derives_take_of_afterFirst? hmore
        refine ⟨i, e, hpos, ?_, hderives⟩
        by_contra hlong
        have hnil : (Lexeme.lex s.toList).drop i = [] := by
          simpa [lexemes] using hlong
        simp [hnil] at hdrop
  · rintro ⟨i, e, hpos, hlt, hderives⟩
    have hafter := afterFirst?_of_derives_take hderives
    have hlength : i < (Lexeme.lex s.toList).length := by
      simpa [lexemes] using hlt
    rw [List.drop_eq_getElem_cons hlength] at hafter
    have hverdict := parse?_verdict s
    generalize parse? s = answer at hverdict ⊢
    cases hverdict with
    | empty hlex => simp [hlex] at hlength
    | unexpectedClose hlex hfirst => simp [hlex, afterFirst?, hfirst] at hafter
    | unclosed hlex hfirst hopen => simp [hopen] at hafter
    | trailingInput hmore => exact ⟨_, rfl⟩
    | complete hdone =>
        rw [hdone] at hafter
        cases hafter

theorem exists_unclosed_iff {s : String} :
    (∃ p, parse? s = .error (.unclosed p)) ↔
      (¬ ∃ e, Derives (lexemes s.toList) e) ∧ lexemes s.toList ≠ [] ∧
        (lexemes s.toList).head? ≠ some .closing ∧
        ¬ ∃ i e, 0 < i ∧ i < (lexemes s.toList).length ∧
        Derives ((lexemes s.toList).take i) e := by
  rw [ne_eq, ne_eq, ← exists_trailingInput_iff, ← exists_unexpectedClose_iff,
    ← parse?_eq_empty_iff.not]
  simp only [← parse?_eq_ok_iff]
  cases parse? s with
  | ok e => simp
  | error fault => cases fault <;> simp

theorem lexemes_append_closing_toList (s : String) (k : Nat) :
    lexemes (s ++ String.ofList (List.replicate k ')')).toList =
      lexemes s.toList ++ List.replicate k .closing := by
  rw [String.toList_append, String.toList_ofList, Lexeme.lexemes_append_closing]

/-- A text with open lists becomes complete with exactly one number of closing
parentheses behind it, and is then the tree that the lenient reader gives for
the text as it was. -/
theorem exists_closing_of_unclosed {s : String} {p : Position}
    (h : parse? s = .error (.unclosed p)) :
    ∃ k, 1 ≤ k ∧ parse? (s ++ String.ofList (List.replicate k ')')) =
      .ok (parse s) ∧
      ∀ j e, 1 ≤ j → parse? (s ++ String.ofList (List.replicate j ')')) =
        .ok e → j = k := by
  have hverdict := parse?_verdict s
  rw [h] at hverdict
  cases hverdict with
  | unclosed hlex hfirst hopen =>
      rw [hlex] at hopen
      obtain ⟨k, e, hk, hderives⟩ := exists_derives_append_closing hfirst hopen
      rw [← hlex] at hderives
      have hne : lexemes s.toList ≠ [] := by simp [lexemes, hlex]
      have htree : parse s = e := by
        rw [← hderives.ofLexemes]
        exact (ofLexemes_append_closing hne k).symm
      refine ⟨k, hk, ?_, ?_⟩
      · rw [parse?_eq_ok_iff, lexemes_append_closing_toList, htree]
        exact hderives
      · intro j e' _ hj
        rw [parse?_eq_ok_iff, lexemes_append_closing_toList] at hj
        exact closing_count_unique hj hderives

/-! ## Places of faults -/

theorem unexpectedClose_locates {s : String} {p : Position}
    (h : parse? s = .error (.unexpectedClose p)) : p.Locates s 0 := by
  have hverdict := parse?_verdict s
  rw [h] at hverdict
  cases hverdict with
  | unexpectedClose hlex _ => exact placeOf_locates (by simp [hlex])

theorem unclosed_locates {s : String} {p : Position}
    (h : parse? s = .error (.unclosed p)) : p.Locates s 0 := by
  have hverdict := parse?_verdict s
  rw [h] at hverdict
  cases hverdict with
  | unclosed hlex _ _ => exact placeOf_locates (by simp [hlex])

theorem trailingInput_locates {s : String} {p : Position} {i : Nat} {e : Expr}
    (h : parse? s = .error (.trailingInput p))
    (hderives : Derives ((lexemes s.toList).take i) e) :
    p.Locates s i := by
  have hverdict := parse?_verdict s
  rw [h] at hverdict
  cases hverdict with
  | trailingInput hmore =>
      rw [afterFirst?_of_derives_take hderives] at hmore
      apply placeOf_locates
      rw [← List.head?_drop, Option.some.inj hmore, List.head?_cons]

/-- What the strict reader says of a text, in terms of the grammar: it accepts
one expression and nothing else, each fault has its own case, a fault is placed
at the lexeme it is about, which has one place only, and a text with open lists
is completed in one way only. -/
structure ReadsByGrammar (s : String) : Prop where
  ok_iff : ∀ e, parse? s = .ok e ↔ Derives (lexemes s.toList) e
  eq_parse : ∀ e, Derives (lexemes s.toList) e → e = parse s
  empty_iff : parse? s = .error .empty ↔ lexemes s.toList = []
  parse_empty : lexemes s.toList = [] → parse s = .list []
  unexpectedClose_iff :
    (∃ p, parse? s = .error (.unexpectedClose p)) ↔
    (lexemes s.toList).head? = some .closing
  parse_closing :
    (lexemes s.toList).head? = some .closing → parse s = .symbol ")"
  trailingInput_iff :
    (∃ p, parse? s = .error (.trailingInput p)) ↔
      ∃ i e, 0 < i ∧ i < (lexemes s.toList).length ∧
      Derives ((lexemes s.toList).take i) e
  unclosed_iff :
    (∃ p, parse? s = .error (.unclosed p)) ↔
      (¬ ∃ e, Derives (lexemes s.toList) e) ∧ lexemes s.toList ≠ [] ∧
        (lexemes s.toList).head? ≠ some .closing ∧
        ¬ ∃ i e, 0 < i ∧ i < (lexemes s.toList).length ∧
        Derives ((lexemes s.toList).take i) e
  unexpectedClose_place :
    ∀ p, parse? s = .error (.unexpectedClose p) → p.Locates s 0
  unclosed_place : ∀ p, parse? s = .error (.unclosed p) → p.Locates s 0
  trailingInput_place : ∀ p i e, parse? s = .error (.trailingInput p) →
    Derives ((lexemes s.toList).take i) e → p.Locates s i
  place_unique : ∀ (p q : Position) i, p.Locates s i → q.Locates s i → p = q
  completed : ∀ p, parse? s = .error (.unclosed p) →
    ∃ k, 1 ≤ k ∧ parse? (s ++ String.ofList (List.replicate k ')')) =
      .ok (parse s) ∧
      ∀ j e, 1 ≤ j → parse? (s ++ String.ofList (List.replicate j ')')) =
        .ok e → j = k

/-- The strict reader, with its faults and their places, decides the grammar of
expressions on every text. -/
theorem parse?_readsByGrammar (s : String) : ReadsByGrammar s where
  ok_iff _ := parse?_eq_ok_iff
  eq_parse _ h := h.ofLexemes.symm
  empty_iff := parse?_eq_empty_iff
  parse_empty h := by
    change ofLexemes (lexemes s.toList) = .list []
    rw [h]
    rfl
  unexpectedClose_iff := exists_unexpectedClose_iff
  parse_closing h := by
    change ofLexemes (lexemes s.toList) = .symbol ")"
    obtain ⟨rest, hlexemes⟩ := List.head?_eq_some_iff.mp h
    rw [hlexemes]
    rfl
  trailingInput_iff := exists_trailingInput_iff
  unclosed_iff := exists_unclosed_iff
  unexpectedClose_place _ := unexpectedClose_locates
  unclosed_place _ := unclosed_locates
  trailingInput_place _ _ _ := trailingInput_locates
  place_unique _ _ _ := Position.Locates.unique
  completed _ := exists_closing_of_unclosed

end Expr
end Phrasebook

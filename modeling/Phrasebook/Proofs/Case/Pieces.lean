import Mathlib
import Phrasebook.Language.Case
import Phrasebook.Proofs.Text.Run
import Phrasebook.Proofs.Text.Searching

/-!
# Cases that work word by word

A text is cut into tags, brackets that open no tag, gaps and words. Every
character belongs to one piece, and gaps and words are runs that cannot be made
longer on either side, except that a word may stand directly behind a tag. A
case that works word by word changes the words and nothing else, so texts with a
gap between them are inflected independently of each other.
-/

namespace Phrasebook
namespace Case

open Text (Stops stops_cons)

/-- A piece of a text: a tag with what stands between its brackets, a bracket
that opens no tag, a run of separators, or a word. -/
inductive Piece where
  | tag (inside : List Char)
  | bracket
  | gap (s : List Char)
  | word (s : List Char)

namespace Piece

def chars : Piece → List Char
  | tag inside => '<' :: inside ++ ['>']
  | bracket => ['<']
  | gap s => s
  | word s => s

def text (ps : List Piece) : List Char :=
  ps.flatMap chars

/-- What a piece consists of and where it ends, in front of the rest of the
text. A tag ends with the first closing bracket, and a bracket opens no tag if
there is none. -/
def EndsBefore (rest : List Char) : Piece → Prop
  | tag inside => '>' ∉ inside
  | bracket => '>' ∉ rest
  | gap s => (s ≠ [] ∧ ∀ c ∈ s, isSeparator c = true) ∧ Stops isSeparator rest
  | word s => (s ≠ [] ∧ ∀ c ∈ s, isWordPart c = true) ∧ Stops isWordPart rest

/-- Where a piece begins, behind other pieces: the run of a gap or a word does
not begin earlier. What stands in a tag does not count as a part of a word. -/
def BeginsBehind (front : List Piece) : Piece → Prop
  | tag _ => True
  | bracket => True
  | gap _ => Stops isSeparator (text front).reverse
  | word _ => Stops isWordPart (text front).reverse ∨
      ∃ inside, front.getLast? = some (tag inside)

/-- Each piece ends where the next one begins. -/
def IsCut : List Piece → Prop
  | [] => True
  | p :: ps => p.EndsBefore (text ps) ∧ IsCut ps

variable {p q : Piece} {ps front back : List Piece} {rest : List Char}

theorem text_cons (p : Piece) (ps : List Piece) :
    text (p :: ps) = p.chars ++ text ps := by
  simp [text]

theorem isWordPart_eq_false_of_isSeparator {c : Char}
    (h : isSeparator c = true) :
    isWordPart c = false := by
  simp [isWordPart, h]

theorem EndsBefore.chars_ne_nil (h : p.EndsBefore rest) : p.chars ≠ [] := by
  cases p with
  | tag inside => simp [chars]
  | bracket => simp [chars]
  | gap s => exact h.1.1
  | word s => exact h.1.1

/-! ## The first piece -/

/-- The first piece of a text is found whatever it is. -/
theorem EndsBefore.pieceLength_append (h : p.EndsBefore rest) :
    pieceLength (p.chars ++ rest) = some p.chars.length := by
  cases p with
  | tag inside =>
      have hinside : ∀ c ∈ inside, (c != '>') = true := by
        intro c hc
        have hne : c ≠ '>' := by
          rintro rfl
          exact h hc
        simpa using hne
      have htake : (inside ++ '>' :: rest).takeWhile (· != '>') = inside :=
        Text.takeWhile_append_of_stops hinside (stops_cons.mpr (by decide))
      simp [chars, pieceLength, htake]
  | bracket =>
      have hnone : '>' ∉ rest := h
      simp [chars, pieceLength, hnone]
  | gap s =>
      obtain ⟨⟨hne, hs⟩, hstops⟩ := h
      obtain ⟨c, s, rfl⟩ := List.exists_cons_of_ne_nil hne
      obtain ⟨hc, hs⟩ := List.forall_mem_cons.mp hs
      have hbracket : c ≠ '<' := by
        rintro rfl
        exact absurd hc (by decide)
      simp [chars, pieceLength, hbracket, hc,
        Text.takeWhile_append_of_stops hs hstops]
  | word s =>
      obtain ⟨⟨hne, hs⟩, hstops⟩ := h
      obtain ⟨c, s, rfl⟩ := List.exists_cons_of_ne_nil hne
      obtain ⟨hc, hs⟩ := List.forall_mem_cons.mp hs
      obtain ⟨hseparator, hbracket⟩ : isSeparator c = false ∧ c ≠ '<' := by
        simpa [isWordPart] using hc
      simp [chars, pieceLength, hbracket, hseparator,
        Text.takeWhile_append_of_stops hs hstops]

theorem EndsBefore.pieces_append (h : p.EndsBefore rest) :
    pieces (p.chars ++ rest) = p.chars :: pieces rest :=
  Text.claims_append_of_some h.chars_ne_nil h.pieceLength_append

/-- Every text begins with a piece. -/
theorem exists_endsBefore (c : Char) (s : List Char) :
    ∃ p rest, c :: s = chars p ++ rest ∧ EndsBefore rest p := by
  by_cases hbracket : c = '<'
  · subst hbracket
    by_cases hclose : '>' ∈ s
    · obtain ⟨inside, rest, rfl, hinside⟩ := List.eq_append_cons_of_mem hclose
      exact ⟨tag inside, rest, by simp [chars], hinside⟩
    · exact ⟨bracket, s, rfl, hclose⟩
  · have hsplit : ∀ run : Char → Bool,
        c :: s = (c :: s.takeWhile run) ++ s.dropWhile run :=
      fun run => congrArg (List.cons c) List.takeWhile_append_dropWhile.symm
    have hrun : ∀ run : Char → Bool, run c = true →
        (c :: s.takeWhile run ≠ [] ∧ ∀ d ∈ c :: s.takeWhile run, run d = true) ∧
          Stops run (s.dropWhile run) := by
      intro run hc
      exact ⟨⟨by simp, List.forall_mem_cons.mpr
        ⟨hc, fun _ => List.mem_takeWhile_imp⟩⟩, Text.stops_dropWhile s⟩
    by_cases hseparator : isSeparator c = true
    · exact ⟨gap _, _, hsplit isSeparator, hrun isSeparator hseparator⟩
    · have hword : isWordPart c = true := by
        simpa [isWordPart, hbracket] using hseparator
      exact ⟨word _, _, hsplit isWordPart, hrun isWordPart hword⟩

/-! ## All pieces -/

/-- Every text is cut into pieces, and there is nothing between them. -/
theorem exists_isCut (s : List Char) : ∃ ps, IsCut ps ∧ text ps = s := by
  induction hlength : s.length using Nat.strong_induction_on generalizing s with
  | _ n ih =>
    cases s with
    | nil => exact ⟨[], trivial, rfl⟩
    | cons c s =>
        obtain ⟨p, rest, heq, hp⟩ := exists_endsBefore c s
        have hpositive := List.length_pos_of_ne_nil hp.chars_ne_nil
        rw [heq, List.length_append] at hlength
        obtain ⟨ps, hps, rfl⟩ := ih rest.length (by omega) rest rfl
        exact ⟨p :: ps, ⟨hp, hps⟩, by rw [heq, text_cons]⟩

theorem IsCut.pieces_text (h : IsCut ps) : pieces (text ps) = ps.map chars := by
  induction ps with
  | nil => rfl
  | cons p ps ih =>
      obtain ⟨hp, hps⟩ := h
      rw [text_cons, hp.pieces_append, ih hps, List.map_cons]

theorem IsCut.of_append (h : IsCut (front ++ back)) : IsCut back := by
  induction front with
  | nil => exact h
  | cons p front ih => exact ih h.2

/-- No run goes on behind a piece whose last character is of another class. -/
theorem EndsBefore.stops_reverse_text (hq : q.EndsBefore rest)
    (front : List Piece)
    {run : Char → Bool} (hlast : ∀ c ∈ q.chars.getLast?, run c = false) :
    Stops run (text (front ++ [q])).reverse := by
  have hreverse :
      (text (front ++ [q])).reverse =
        q.chars.reverse ++ (text front).reverse := by
    simp [text]
  obtain ⟨c, s, hchars⟩ := List.exists_cons_of_ne_nil
    (List.reverse_ne_nil_iff.mpr hq.chars_ne_nil)
  rw [hreverse, hchars, List.cons_append]
  refine stops_cons.mpr (hlast c ?_)
  rw [← List.head?_reverse, hchars]
  rfl

/-- A run does not stop in front of a run of its own class. -/
theorem not_stops_append {run : Char → Bool} {s : List Char}
    (hs : s ≠ [] ∧ ∀ c ∈ s, run c = true) : ¬ Stops run (s ++ rest) := by
  intro hstops
  obtain ⟨c, s, rfl⟩ := List.exists_cons_of_ne_nil hs.1
  have hstop : run c = false := stops_cons.mp hstops
  rw [hs.2 c List.mem_cons_self] at hstop
  exact Bool.noConfusion hstop

/-- A run does not begin earlier, for the piece in front of it ends with a
character of another class. -/
theorem EndsBefore.beginsBehind (hq : q.EndsBefore (p.chars ++ rest))
    (hp : p.EndsBefore rest)
    (front : List Piece) : p.BeginsBehind (front ++ [q]) := by
  cases p with
  | tag inside => trivial
  | bracket => trivial
  | gap s =>
      refine hq.stops_reverse_text front ?_
      cases q with
      | tag inside =>
          have hclose : (tag inside).chars.getLast? = some '>' :=
            List.getLast?_concat
          simp [hclose, isSeparator, Text.isBlank]
      | bracket => simp [chars, isSeparator, Text.isBlank]
      | gap s' => exact absurd hq.2 (not_stops_append hp.1)
      | word s' =>
          intro c hc
          have hword : isWordPart c = true :=
            hq.1.2 c (List.mem_of_mem_getLast? hc)
          simp only [isWordPart, Bool.and_eq_true] at hword
          simpa using hword.1
  | word s =>
      cases q with
      | tag inside => exact .inr ⟨inside, by simp⟩
      | bracket =>
          exact .inl (hq.stops_reverse_text front (by simp [chars, isWordPart]))
      | gap s' =>
          refine .inl (hq.stops_reverse_text front fun c hc => ?_)
          exact isWordPart_eq_false_of_isSeparator
            (hq.1.2 c (List.mem_of_mem_getLast? hc))
      | word s' => exact absurd hq.2 (not_stops_append hp.1)

/-- Each piece stands where it belongs between those in front of it and those
behind it. -/
theorem IsCut.beginsBehind_and_endsBefore (h : IsCut (front ++ p :: back)) :
    p.BeginsBehind front ∧ p.EndsBefore (text back) := by
  have hp : p.EndsBefore (text back) := h.of_append.1
  refine ⟨?_, hp⟩
  cases front using List.reverseRecOn with
  | nil =>
      cases p with
      | tag inside => trivial
      | bracket => trivial
      | gap s => exact Text.stops_nil
      | word s => exact .inl Text.stops_nil
  | append_singleton front q =>
      rw [List.append_assoc, List.singleton_append] at h
      have hq : q.EndsBefore (text (p :: back)) := h.of_append.1
      rw [text_cons] at hq
      exact hq.beginsBehind hp front

/-! ## Inflecting pieces -/

variable {c : Case} {e : Setting}

/-- What a case that works word by word makes of a piece. -/
def inflected (c : Case) (e : Setting) : Piece → List Char
  | word s => (c.applyElement e (String.ofList s)).value.toList
  | p => p.chars

/-- Whether a piece is a word shows in its characters. -/
theorem EndsBefore.value_inflect (h : p.EndsBefore rest) :
    (if isWord p.chars then c.applyElement e (String.ofList p.chars)
      else pure (String.ofList p.chars)).value.toList = p.inflected c e := by
  cases p with
  | tag inside => simp [isWord, chars, inflected]
  | bracket => simp [isWord, chars, inflected]
  | gap s =>
      have hall : s.all isSeparator = true := List.all_eq_true.mpr h.1.2
      simp [isWord, chars, inflected, hall]
  | word s =>
      obtain ⟨⟨hne, hs⟩, -⟩ := h
      obtain ⟨d, s, rfl⟩ := List.exists_cons_of_ne_nil hne
      obtain ⟨hseparator, hbracket⟩ : isSeparator d = false ∧ d ≠ '<' := by
        simpa [isWordPart] using hs d List.mem_cons_self
      have hword : isWord (d :: s) = true := by
        simp [isWord, hseparator, hbracket]
      rw [chars, if_pos hword, inflected]

def inflectedText (c : Case) (e : Setting) (s : List Char) : List Char :=
  (c.applyPieces e (pieces s)).value.toList

theorem EndsBefore.inflectedText_append (h : p.EndsBefore rest) :
    inflectedText c e (p.chars ++ rest) =
      p.inflected c e ++ inflectedText c e rest := by
  rw [inflectedText, h.pieces_append, applyPieces, ← h.value_inflect,
    inflectedText, ← String.toList_append]
  by_cases hword : isWord p.chars = true
  · rw [if_pos hword]
    simp only [if_pos hword]
    rfl
  · rw [if_neg hword]
    simp only [if_neg hword]
    rfl

theorem IsCut.inflectedText_text (h : IsCut ps) :
    inflectedText c e (text ps) = ps.flatMap (inflected c e) := by
  induction ps with
  | nil => rfl
  | cons p ps ih =>
      obtain ⟨hp, hps⟩ := h
      rw [text_cons, hp.inflectedText_append, ih hps, List.flatMap_cons]

/-- Separators stay as they are, also where the text goes on with separators. -/
theorem inflectedText_append_of_isSeparator {s : List Char}
    (hs : ∀ d ∈ s, isSeparator d = true) (v : List Char) :
    inflectedText c e (s ++ v) = s ++ inflectedText c e v := by
  have hrun : ∀ {g rest : List Char}, (∀ d ∈ g, isSeparator d = true) →
      Stops isSeparator rest →
      inflectedText c e (g ++ rest) = g ++ inflectedText c e rest := by
    intro g rest hg hrest
    by_cases hne : g = []
    · rw [hne, List.nil_append, List.nil_append]
    · have hgap : (gap g).EndsBefore rest := ⟨⟨hne, hg⟩, hrest⟩
      exact hgap.inflectedText_append
  obtain ⟨g, rest, hg, hrest, rfl⟩ : ∃ g rest, (∀ d ∈ g, isSeparator d = true) ∧
      Stops isSeparator rest ∧ v = g ++ rest :=
    ⟨v.takeWhile isSeparator, v.dropWhile isSeparator,
      fun _ => List.mem_takeWhile_imp,
      Text.stops_dropWhile v, List.takeWhile_append_dropWhile.symm⟩
  rw [← List.append_assoc, hrun (List.forall_mem_append.mpr ⟨hs, hg⟩) hrest,
    hrun hg hrest, List.append_assoc]

/-- Behind a gap a text without brackets is inflected as if nothing stood in
front of the gap. -/
theorem IsCut.inflectedText_append {s : List Char} (h : IsCut ps)
    (hbracket : '<' ∉ text ps)
    (hne : s ≠ []) (hs : ∀ d ∈ s, isSeparator d = true) (v : List Char) :
    inflectedText c e (text ps ++ (s ++ v)) =
      inflectedText c e (text ps) ++ (s ++ inflectedText c e v) := by
  induction ps with
  | nil => exact inflectedText_append_of_isSeparator hs v
  | cons p ps ih =>
      obtain ⟨hp, hps⟩ := h
      obtain ⟨hhere, hlater⟩ : '<' ∉ p.chars ∧ '<' ∉ text ps := by
        simpa [text_cons] using hbracket
      rw [text_cons, List.append_assoc]
      cases p with
      | tag inside => exact absurd (by simp [chars]) hhere
      | bracket => exact absurd (by simp [chars]) hhere
      | gap g =>
          rw [chars, inflectedText_append_of_isSeparator hp.1.2,
            inflectedText_append_of_isSeparator hp.1.2, ih hps hlater,
            List.append_assoc]
      | word w =>
          have hstops : Stops isWordPart (text ps ++ (s ++ v)) := by
            obtain ⟨d, s, rfl⟩ := List.exists_cons_of_ne_nil hne
            have hd :=
              isWordPart_eq_false_of_isSeparator (hs d List.mem_cons_self)
            exact Stops.append hp.2 (stops_cons.mpr hd)
          have hlonger : (word w).EndsBefore (text ps ++ (s ++ v)) :=
            ⟨hp.1, hstops⟩
          rw [hlonger.inflectedText_append, hp.inflectedText_append,
            ih hps hlater, List.append_assoc]

end Piece

variable {c : Case} {e : Setting}

theorem value_apply_words (hwords : c.application = .words)
    (hrules : c.rules ≠ []) (value : String) :
    (c.apply e value).value =
      String.ofList (Piece.inflectedText c e value.toList) := by
  have hempty : ¬ c.rules.isEmpty = true := by simpa using hrules
  rw [apply, if_neg hempty, hwords, Piece.inflectedText, String.ofList_toList]

/-- A case that works word by word changes words only. The text is cut into
tags, lone brackets, gaps and words without anything between them, and the
result is the same sequence with each word inflected on its own. So the text
stays as it is if its words do, and the parts of a text on both sides of a gap
are inflected independently, unless a bracket stands in front of the gap. -/
theorem apply_words (hwords : c.application = .words) (hrules : c.rules ≠ [])
    (e : Setting) : (∀ value : String, ∃ ps : List Piece,
      pieces value.toList = ps.map Piece.chars ∧ Piece.text ps = value.toList ∧
      (∀ front p back, ps = front ++ p :: back →
        p.BeginsBehind front ∧ p.EndsBefore (Piece.text back)) ∧
      (c.apply e value).value.toList = ps.flatMap (Piece.inflected c e) ∧
      ((∀ w, .word w ∈ ps → (c.applyElement e (String.ofList w)).value =
        String.ofList w) →
        (c.apply e value).value = value)) ∧
    ∀ u s v : String, '<' ∉ u.toList → s ≠ "" →
    (∀ d ∈ s.toList, isSeparator d = true) →
      (c.apply e (u ++ s ++ v)).value =
        (c.apply e u).value ++ s ++ (c.apply e v).value := by
  constructor
  · intro value
    obtain ⟨ps, hcut, htext⟩ := Piece.exists_isCut value.toList
    have happly : (c.apply e value).value.toList =
        ps.flatMap (Piece.inflected c e) := by
      rw [value_apply_words hwords hrules, ← htext, hcut.inflectedText_text,
        String.toList_ofList]
    refine ⟨ps, by rw [← htext, hcut.pieces_text], htext, ?_, happly, ?_⟩
    · rintro front p back rfl
      exact hcut.beginsBehind_and_endsBefore
    · intro hsame
      have hinflected : ∀ p ∈ ps, p.inflected c e = p.chars := by
        intro p hp
        cases p with
        | tag inside => rfl
        | bracket => rfl
        | gap s => rfl
        | word w =>
            rw [Piece.inflected, hsame w hp, String.toList_ofList, Piece.chars]
      rw [← String.toList_inj, happly, ← htext, Piece.text]
      exact List.flatMap_congr hinflected
  · intro u s v hbracket hne hs
    obtain ⟨ps, hcut, htext⟩ := Piece.exists_isCut u.toList
    have hchars : s.toList ≠ [] := by simpa using hne
    rw [← htext] at hbracket
    have happend :=
      hcut.inflectedText_append (c := c) (e := e) hbracket hchars hs v.toList
    rw [htext] at happend
    rw [value_apply_words hwords hrules, value_apply_words hwords hrules,
      value_apply_words hwords hrules, String.toList_append,
      String.toList_append, List.append_assoc, happend, String.ofList_append,
      String.ofList_append, String.ofList_toList, String.append_assoc]

def plural : Case where
  keyword := "plural"
  latinName := ""
  nativeName := ""
  description := ""
  application := .words
  rules :=
    [⟨"sibilant", "", "", "(match '/x$/' @value)", some "(append 'es' @value)"⟩,
    ⟨"other", "", "", "(true)", some "(append 's' @value)"⟩]

/-- A bracket that is not closed stands for itself, and what is in a tag is no
word. -/
theorem apply_words_plural :
    let e : Setting :=
      ⟨Language.bare "en" "English", none, Decorator.plain, Options.standard,
        default⟩
    let applied := fun s => (plural.apply e s).value
    (∃ ps : List Piece,
      ps.map Piece.chars = pieces "fox<b c>cat </ <dog".toList ∧
      (applied "fox<b c>cat </ <dog").toList =
        ps.flatMap (Piece.inflected plural e) ∧
      applied "fox<b c>cat </ <dog" = "foxes<b c>cats </ <dogs") ∧
    applied ("fox" ++ " / " ++ "<b>cat") =
      applied "fox" ++ " / " ++ applied "<b>cat" := by
  intro e applied
  have hbracket : '<' ∉ "fox".toList := by decide
  have hgap : ∀ d ∈ " / ".toList, isSeparator d = true := by
    simp [isSeparator, Text.isBlank]
  obtain ⟨hpieces, happend⟩ :=
    apply_words (c := plural) rfl (by simp [plural]) e
  obtain ⟨ps, hcut, -, -, hinflected, -⟩ := hpieces "fox<b c>cat </ <dog"
  exact ⟨⟨ps, hcut.symm, hinflected, by decide +kernel⟩,
    happend "fox" " / " "<b>cat" hbracket (by decide) hgap⟩

end Case
end Phrasebook

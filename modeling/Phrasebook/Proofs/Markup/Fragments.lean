import Phrasebook.Markup.Node
import Phrasebook.Proofs.Text.Run

/-!
# Fragments and where they end

A fragment is read off the beginning of a text without looking back, and a name
of word characters ends at the mark behind it. So a written fragment is found
again whatever stands behind it, with one exception: a stretch without brackets
goes on to the next bracket, and is found as it was written only if a bracket
follows or the text is over.
-/

namespace Phrasebook
namespace Markup
namespace Fragment

open Text (Stops stops_cons)

variable {name rest : List Char}

theorem splitFrom_length_append (s rest : List Char) :
    splitFrom s.length (s ++ rest) = split rest := by
  induction s with
  | nil => rfl
  | cons c s ih => exact ih

/-- The text begins with the fragment, and what is behind is cut on its own. -/
theorem split_of_begin {f : Fragment} {c : Char} {s : List Char}
    (hchars : f.chars = c :: s) (hbegin : begin c (s ++ rest) = f) :
    split (f.chars ++ rest) = f :: split rest := by
  have hlength : f.chars.length - 1 = s.length := by simp [hchars]
  rw [hchars, List.cons_append, split, splitFrom]
  simp only [hbegin, hlength, splitFrom_length_append]

theorem takeWhile_name (rest : List Char) {c : Char}
    (hname : ∀ c ∈ name, Unicode.isWord c = true)
    (hc : Unicode.isWord c = false) :
    (name ++ c :: rest).takeWhile Unicode.isWord = name :=
  Text.takeWhile_append_of_stops hname (stops_cons.mpr hc)

theorem bracketed_short (hname : ∀ c ∈ name, Unicode.isWord c = true) :
    bracketed (name ++ ':' :: rest) = .opening .short name := by
  have htake := takeWhile_name rest hname (c := ':') (by decide)
  simp [bracketed, htake]

theorem bracketed_long (hname : ∀ c ∈ name, Unicode.isWord c = true) :
    bracketed (name ++ ']' :: rest) = .opening .long name := by
  have htake := takeWhile_name rest hname (c := ']') (by decide)
  simp [bracketed, htake]

theorem bracketed_slash (hname : ∀ c ∈ name, Unicode.isWord c = true) :
    bracketed ('/' :: (name ++ ']' :: rest)) = .closingTag name := by
  have htake := takeWhile_name rest hname (c := ']') (by decide)
  have hslash : Unicode.isWord '/' = false := by decide
  simp [bracketed, htake, hslash]

theorem split_opening (form : ElementForm)
    (hname : ∀ c ∈ name, Unicode.isWord c = true) :
    split ((opening form name).chars ++ rest) =
      .opening form name :: split rest := by
  cases form with
  | short =>
      refine split_of_begin (s := name ++ [':']) rfl ?_
      simpa [begin] using bracketed_short hname
  | long =>
      refine split_of_begin (s := name ++ [']']) rfl ?_
      simpa [begin] using bracketed_long hname

theorem split_closingTag (hname : ∀ c ∈ name, Unicode.isWord c = true) :
    split ((closingTag name).chars ++ rest) =
      .closingTag name :: split rest := by
  refine split_of_begin (s := '/' :: name ++ [']']) rfl ?_
  simpa [begin] using bracketed_slash hname

theorem split_closingBracket :
    split (closingBracket.chars ++ rest) = .closingBracket :: split rest :=
  split_of_begin rfl (by simp [begin])

theorem split_plain {s : List Char} (hne : s ≠ [])
    (hs : ∀ c ∈ s, isPlain c = true) (hrest : Stops isPlain rest) :
    split ((plain s).chars ++ rest) = .plain s :: split rest := by
  obtain ⟨c, s, rfl⟩ := List.exists_cons_of_ne_nil hne
  obtain ⟨hc, hs⟩ := List.forall_mem_cons.mp hs
  have hbrackets : c ≠ '[' ∧ c ≠ ']' := by simpa [isPlain] using hc
  refine split_of_begin rfl ?_
  simp [begin, hbrackets, Text.takeWhile_append_of_stops hs hrest]

/-! ## Marks -/

/-- The fragments that a bracket begins, with their characters behind the
bracket. -/
inductive Marks : Fragment → List Char → Prop where
  | short {name : List Char} (hname : ∀ c ∈ name, Unicode.isWord c = true) :
      Marks (.opening .short name) (name ++ [':'])
  | long {name : List Char} (hname : ∀ c ∈ name, Unicode.isWord c = true) :
      Marks (.opening .long name) (name ++ [']'])
  | closing {name : List Char} (hname : ∀ c ∈ name, Unicode.isWord c = true) :
      Marks (.closingTag name) ('/' :: name ++ [']'])

variable {s t : List Char} {f : Fragment} {m : List Char}

theorem Marks.split_append (h : Marks f m) (rest : List Char) :
    split ('[' :: (m ++ rest)) = f :: split rest := by
  cases h with
  | short hname => exact split_opening .short hname
  | long hname => exact split_opening .long hname
  | closing hname => exact split_closingTag hname

/-- A character that may stand in a mark only if it does not end the mark. -/
def isMarkless (c : Char) : Bool :=
  c != '[' && c != ']' && c != ':'

theorem isPlain_of_isMarkless {c : Char} (h : isMarkless c = true) :
    isPlain c = true := by
  simp only [isMarkless, Bool.and_eq_true] at h
  simpa [isPlain] using h.1

theorem isMarkless_of_isWord {c : Char} (h : Unicode.isWord c = true) :
    isMarkless c = true := by
  have hne : ∀ d : Char, Unicode.isWord d = false → c ≠ d := by
    rintro d hd rfl
    rw [h] at hd
    exact Bool.noConfusion hd
  simp [isMarkless, hne '[' (by decide), hne ']' (by decide),
    hne ':' (by decide)]

theorem Marks.exists_last (h : Marks f m) :
    ∃ inner c, m = inner ++ [c] ∧ (∀ d ∈ inner, isMarkless d = true) ∧
      (c = ':' ∨ c = ']') := by
  cases h with
  | short hname =>
      exact ⟨_, _, rfl, fun d hd => isMarkless_of_isWord (hname d hd), .inl rfl⟩
  | long hname =>
      exact ⟨_, _, rfl, fun d hd => isMarkless_of_isWord (hname d hd), .inr rfl⟩
  | closing hname =>
      refine ⟨_, _, rfl, List.forall_mem_cons.mpr ⟨rfl, ?_⟩, .inr rfl⟩
      exact fun d hd => isMarkless_of_isWord (hname d hd)

theorem drop_length_takeWhile (p : Char → Bool) (s : List Char) :
    s.drop (s.takeWhile p).length = s.dropWhile p := by
  calc s.drop (s.takeWhile p).length
      = (s.takeWhile p ++ s.dropWhile p).drop (s.takeWhile p).length := by
        rw [List.takeWhile_append_dropWhile]
    _ = s.dropWhile p := List.drop_left

/-- Behind a bracket stands a mark, or the bracket is text. -/
theorem marks_or_plain (s : List Char) :
    (∃ f m rest, Marks f m ∧ s = m ++ rest) ∨ bracketed s = .plain ['['] := by
  have hword : ∀ s : List Char,
      ∀ c ∈ s.takeWhile Unicode.isWord, Unicode.isWord c = true :=
    fun _ _ => List.mem_takeWhile_imp
  have hcut : ∀ {s : List Char} {c : Char} {rest : List Char},
      s.dropWhile Unicode.isWord = c :: rest →
        s = s.takeWhile Unicode.isWord ++ [c] ++ rest := by
    intro s c rest h
    rw [List.append_assoc, List.singleton_append, ← h,
      List.takeWhile_append_dropWhile]
  unfold bracketed
  dsimp only
  rw [drop_length_takeWhile]
  split
  · rename_i rest h
    exact .inl ⟨_, _, rest, .short (hword s), hcut h⟩
  · rename_i rest h
    exact .inl ⟨_, _, rest, .long (hword s), hcut h⟩
  · split
    · rename_i tag _ _
      rw [drop_length_takeWhile]
      split
      · rename_i hclose
        obtain ⟨rest, hrest⟩ := List.head?_eq_some_iff.mp hclose
        exact .inl ⟨_, _, rest, .closing (hword tag),
          congrArg (List.cons '/') (hcut hrest)⟩
      · exact .inr rfl
    · exact .inr rfl

/-! ## All fragments -/

/-- The fragments that a text is cut into: names are made of word characters,
and anything else is a lone bracket or a stretch without brackets. -/
inductive Formed : Fragment → Prop where
  | opening {form : ElementForm} {name : List Char}
      (hname : ∀ c ∈ name, Unicode.isWord c = true) :
        Formed (.opening form name)
  | closingTag {name : List Char}
      (hname : ∀ c ∈ name, Unicode.isWord c = true) :
      Formed (.closingTag name)
  | closingBracket : Formed .closingBracket
  | bracket : Formed (.plain ['['])
  | plain {s : List Char} (hne : s ≠ []) (hs : ∀ c ∈ s, isPlain c = true) :
      Formed (.plain s)

/-- A fragment is found again in its own characters. -/
theorem Formed.split_chars (h : Formed f) : split f.chars = [f] := by
  have hend : split (f.chars ++ []) = f :: split [] := by
    cases h with
    | opening hname => exact split_opening _ hname
    | closingTag hname => exact split_closingTag hname
    | closingBracket => exact split_closingBracket
    | bracket => decide
    | plain hne hs => exact split_plain hne hs Text.stops_nil
  rwa [List.append_nil] at hend

/-- So fragments that are spelled alike are the same. -/
theorem Formed.eq_of_chars_eq {g : Fragment} (hf : Formed f) (hg : Formed g)
    (h : f.chars = g.chars) : f = g := by
  have hsplit : [f] = [g] := by rw [← hf.split_chars, h, hg.split_chars]
  simpa using hsplit

theorem exists_split_cons (c : Char) (s : List Char) :
    ∃ f rest, Formed f ∧ c :: s = f.chars ++ rest ∧
      split (c :: s) = f :: split rest := by
  by_cases hopen : c = '['
  · subst hopen
    rcases marks_or_plain s with ⟨f, m, rest, hm, rfl⟩ | hplain
    · refine ⟨f, rest, ?_, ?_, hm.split_append rest⟩
      · cases hm with
        | short hname => exact .opening hname
        | long hname => exact .opening hname
        | closing hname => exact .closingTag hname
      · cases hm with
        | short hname => rfl
        | long hname => rfl
        | closing hname => rfl
    · have hchars : (Fragment.plain ['[']).chars = '[' :: [] := rfl
      exact ⟨.plain ['['], s, .bracket, rfl,
        split_of_begin hchars (by simpa [begin] using hplain)⟩
  · by_cases hclose : c = ']'
    · subst hclose
      exact ⟨.closingBracket, s, .closingBracket, rfl, split_closingBracket⟩
    · have hrun : ∀ d ∈ c :: s.takeWhile isPlain, isPlain d = true :=
        List.forall_mem_cons.mpr
          ⟨by simp [isPlain, hopen, hclose], fun _ => List.mem_takeWhile_imp⟩
      have heq : c :: s = (c :: s.takeWhile isPlain) ++ s.dropWhile isPlain :=
        congrArg (List.cons c) List.takeWhile_append_dropWhile.symm
      refine ⟨.plain (c :: s.takeWhile isPlain), s.dropWhile isPlain,
        .plain (by simp) hrun, heq,
        ?_⟩
      rw [heq]
      exact split_plain (by simp) hrun (Text.stops_dropWhile s)

/-- The fragments of a text make up the whole text. -/
theorem flatMap_chars_split (s : List Char) :
    (split s).flatMap chars = s ∧ ∀ f ∈ split s, Formed f := by
  induction hlength : s.length using Nat.strong_induction_on generalizing s with
  | _ n ih =>
    cases s with
    | nil => exact ⟨rfl, by simp [split, splitFrom]⟩
    | cons c s =>
        obtain ⟨f, rest, hf, heq, hsplit⟩ := exists_split_cons c s
        have hne : f.chars ≠ [] := by
          intro hnil
          have hnone := hf.split_chars
          rw [hnil] at hnone
          simp [split, splitFrom] at hnone
        have hpositive := List.length_pos_of_ne_nil hne
        rw [heq, List.length_append] at hlength
        obtain ⟨hchars, hformed⟩ := ih rest.length (by omega) rest rfl
        rw [hsplit]
        refine ⟨?_, List.forall_mem_cons.mpr ⟨hf, hformed⟩⟩
        rw [List.flatMap_cons, hchars, heq]

/-! ## A label that goes on -/

/-- What may stand behind a label: text without marks, and behind it an opening
bracket or nothing. -/
structure GoesOn (t rest : List Char) : Prop where
  markless : ∀ c ∈ t, isMarkless c = true
  ends : rest = [] ∨ ∃ u, rest = '[' :: u

/-- No mark that is begun in front of the text ends in it. -/
theorem GoesOn.append_ne (h : GoesOn t rest) {inner after : List Char}
    {c : Char}
    (hinner : ∀ d ∈ inner, isMarkless d = true) (hc : c = ':' ∨ c = ']') :
    inner ++ c :: after ≠ t ++ rest := by
  have hmark : isMarkless c = false := by
    rcases hc with rfl | rfl
    · decide
    · decide
  have hnot : c ∉ t := by
    intro hmem
    rw [h.markless c hmem] at hmark
    exact Bool.noConfusion hmark
  intro heq
  rcases h.ends with rfl | ⟨u, rfl⟩
  · refine hnot ?_
    rw [List.append_nil] at heq
    simp [← heq]
  · have hbracket : '[' ∉ inner :=
      fun hmem => absurd (hinner '[' hmem) (by decide)
    obtain ⟨-, rfl, -⟩ := Text.cons_eq_of_append_cons_eq heq hnot hbracket
    rcases hc with hc | hc
    · exact absurd hc (by decide)
    · exact absurd hc (by decide)

/-- A bracket that is text stays text when the label goes on. -/
theorem GoesOn.split_bracket_append (h : GoesOn t rest)
    (hs : ¬ ∃ f m rest, Marks f m ∧ s = m ++ rest) :
    split ('[' :: (s ++ (t ++ rest))) = .plain ['['] :: split
      (s ++ (t ++ rest)) := by
  have hbracketed : bracketed (s ++ (t ++ rest)) = .plain ['['] := by
    refine (marks_or_plain _).resolve_left ?_
    rintro ⟨f, m, after, hm, heq⟩
    rcases List.append_eq_append_iff.mp heq with ⟨gap, hgap, htail⟩ |
      ⟨gap, hgap, htail⟩
    · -- The mark begins in `s` and ends in what stands behind.
      obtain ⟨inner, c, hlast, hinner, hc⟩ := hm.exists_last
      cases gap using List.reverseRecOn with
      | nil => exact hs ⟨f, m, [], hm, by simpa using hgap.symm⟩
      | append_singleton gap d =>
          rw [hlast, ← List.append_assoc] at hgap
          obtain ⟨rfl, hd⟩ := List.append_inj' hgap rfl
          obtain rfl : c = d := by simpa using hd
          obtain ⟨-, hgap⟩ := List.forall_mem_append.mp hinner
          have heq : gap ++ c :: after = t ++ rest := by
            rw [htail, List.append_assoc, List.singleton_append]
          exact h.append_ne hgap hc heq
    · exact hs ⟨f, m, gap, hm, hgap⟩
  have hchars : (plain ['[']).chars = '[' :: [] := rfl
  exact split_of_begin hchars (by simpa [begin] using hbracketed)

/-- The fragments of a stretch without brackets. -/
def ofPlain (s : List Char) : List Fragment :=
  if s = [] then [] else [.plain s]

theorem split_ofPlain_append (hs : ∀ c ∈ s, isPlain c = true)
    (hrest : Stops isPlain rest) :
    split (s ++ rest) = ofPlain s ++ split rest := by
  unfold ofPlain
  split
  · rename_i hempty
    rw [hempty]
    rfl
  · rename_i hne
    exact split_plain hne hs hrest

/-- The label is cut into the fragments `fs` and a stretch `s` without brackets,
which becomes longer when the label goes on. -/
def CutInto (label : List Char) (fs : List Fragment) (s : List Char) : Prop :=
  ∀ {t rest}, GoesOn t rest →
    split (label ++ (t ++ rest)) = fs ++ (ofPlain (s ++ t) ++ split rest)

theorem cutInto_of_isPlain (hs : ∀ c ∈ s, isPlain c = true) :
    CutInto s [] s := by
  intro t rest h
  have hplain : ∀ c ∈ s ++ t, isPlain c = true :=
    List.forall_mem_append.mpr
      ⟨hs, fun c hc => isPlain_of_isMarkless (h.markless c hc)⟩
  have hstops : Stops isPlain rest := by
    rcases h.ends with rfl | ⟨u, rfl⟩
    · exact Text.stops_nil
    · exact stops_cons.mpr (by decide)
  rw [← List.append_assoc, split_ofPlain_append hplain hstops, List.nil_append]

theorem CutInto.cons {run after left : List Char} {c : Char}
    {fs : List Fragment}
    (hleft : CutInto left fs s) (hrun : ∀ c ∈ run, isPlain c = true)
    (hc : isPlain c = false) (hfirst : ∀ {t rest}, GoesOn t rest →
      split (c :: (after ++ (t ++ rest))) = f :: split (left ++ (t ++ rest))) :
    CutInto (run ++ c :: after) (ofPlain run ++ f :: fs) s := by
  intro t rest h
  have hstart : split (run ++ c :: (after ++ (t ++ rest))) =
      ofPlain run ++ split (c :: (after ++ (t ++ rest))) :=
    split_ofPlain_append hrun (stops_cons.mpr hc)
  rw [List.append_assoc, List.cons_append, hstart, hfirst h, hleft h,
    List.append_assoc, List.cons_append]

theorem exists_cutInto (label : List Char) : ∃ fs s, CutInto label fs s := by
  induction hlength :
    label.length using Nat.strong_induction_on generalizing label with
  | _ n ih =>
    obtain ⟨run, after, hrun, hstops, rfl⟩ :
      ∃ run after, (∀ c ∈ run, isPlain c = true) ∧
        Stops isPlain after ∧ label = run ++ after :=
      ⟨label.takeWhile isPlain, label.dropWhile isPlain,
        fun _ => List.mem_takeWhile_imp,
        Text.stops_dropWhile label, List.takeWhile_append_dropWhile.symm⟩
    cases after with
    | nil =>
        rw [List.append_nil]
        exact ⟨[], run, cutInto_of_isPlain hrun⟩
    | cons c after =>
        have hc : isPlain c = false := stops_cons.mp hstops
        have hshorter : ∀ left : List Char, left.length ≤ after.length →
            ∃ fs s, CutInto left fs s := by
          intro left hle
          refine ih left.length ?_ left rfl
          rw [List.length_append, List.length_cons] at hlength
          omega
        by_cases hclose : c = ']'
        · subst hclose
          obtain ⟨fs, s, hleft⟩ := hshorter after le_rfl
          exact ⟨_, s, hleft.cons hrun hc fun _ => split_closingBracket⟩
        · obtain rfl : c = '[' := by
            simp only [isPlain, Bool.and_eq_false_iff, bne_eq_false_iff_eq]
              at hc
            exact hc.resolve_right hclose
          by_cases hmark : ∃ f m left, Marks f m ∧ after = m ++ left
          · obtain ⟨f, m, left, hm, rfl⟩ := hmark
            obtain ⟨fs, s, hleft⟩ := hshorter left (by simp)
            refine ⟨ofPlain run ++ f :: fs, s, hleft.cons hrun hc fun _ => ?_⟩
            rw [List.append_assoc]
            exact hm.split_append _
          · obtain ⟨fs, s, hleft⟩ := hshorter after le_rfl
            exact ⟨_, s, hleft.cons hrun hc fun h =>
              h.split_bracket_append hmark⟩

end Fragment
end Markup
end Phrasebook

import Phrasebook.Proofs.Markup.RoundTrip

/-!
# Reading step by step

Reading goes through the fragments of a label one after the other, and what it
does with the next one depends on the earlier ones only through the elements
that they have left open. A fragment opens one element at most, and every other
element that is open behind it was open before. The outermost one is the root
until its own closing tag is read in it, where reading ends.
-/

namespace Phrasebook
namespace Markup

/-- The elements that are open, the innermost and those around it. -/
abbrev OpenElements := OpenElement × List OpenElement

namespace OpenElements

def marks (o : OpenElements) : List (ElementForm × List Char) :=
  (o.1 :: o.2).map fun e => (e.form, e.name)

def atStart : OpenElements :=
  (.start .long rootName, [])

/-- The elements that are open behind one more fragment; nothing, once the
outermost is closed. -/
def step? (o : OpenElements) (f : Fragment) : Option OpenElements :=
  let (here, around) := endOuter f o.1 o.2
  if here.closedBy f then
    match around with
    | [] => none
    | outer :: around => some (outer.push here.toNode, around)
  else
    match f with
    | .opening form name => some (.start form name, here :: around)
    | f => some (here.pushText f.chars, around)

def after? (o : OpenElements) (fs : List Fragment) : Option OpenElements :=
  fs.foldlM step? o

/-- The form of the innermost open element with the reserved name. -/
def reservedForm? (o : OpenElements) : Option ElementForm :=
  (o.marks.find? fun mark => mark.2 == rootName).map Prod.fst

def tree (o : OpenElements) (fs : List Fragment) : Node :=
  (build [] o.1 o.2 fs).tree

variable {o o' : OpenElements} {f : Fragment} {fs rest : List Fragment}

theorem tree_build (names : List String) (o : OpenElements)
    (fs : List Fragment) :
    (build names o.1 o.2 fs).tree = o.tree fs := by
  have hnames : ∀ (fs : List Fragment) (names names' : List String)
      (here : OpenElement)
      (around : List OpenElement),
      (build names here around fs).tree =
        (build names' here around fs).tree := by
    intro fs
    induction fs with
    | nil => exact fun _ _ _ _ => rfl
    | cons f fs ih =>
        intro names names' here around
        simp only [build]
        split
        · split
          · rfl
          · exact ih _ _ _ _
        · split
          · exact ih _ _ _ _
          · exact ih _ _ _ _
  exact hnames fs names [] o.1 o.2

theorem tree_cons (o : OpenElements) (f : Fragment) (fs : List Fragment) :
    o.tree (f :: fs) = ((o.step? f).map fun o' => o'.tree fs).getD
      (endOuter f o.1 o.2).1.toNode := by
  rw [tree, build, step?]
  generalize endOuter f o.1 o.2 = e
  obtain ⟨here, around⟩ := e
  dsimp only
  by_cases hclosed : here.closedBy f = true
  · rw [if_pos hclosed, if_pos hclosed]
    cases around with
    | nil => rfl
    | cons outer around => rfl
  · rw [if_neg hclosed, if_neg hclosed]
    cases f with
    | opening form name =>
        exact tree_build _ (.start form name, here :: around) fs
    | closingTag name => rfl
    | closingBracket => rfl
    | plain s => rfl

/-- The tree depends on the fragments that are read before only through the open
elements. -/
theorem tree_append_of_some (h : o.after? fs = some o') :
    o.tree (fs ++ rest) = o'.tree rest := by
  induction fs generalizing o with
  | nil =>
      obtain rfl : o = o' := by simpa [after?] using h
      rfl
  | cons f fs ih =>
      rw [after?, List.foldlM_cons] at h
      obtain ⟨o₁, hstep, hrest⟩ := Option.bind_eq_some_iff.mp h
      rw [List.cons_append, tree_cons, hstep, Option.map_some, Option.getD_some]
      exact ih hrest

theorem after?_append (o : OpenElements) (fs rest : List Fragment) :
    o.after? (fs ++ rest) = (o.after? fs).bind fun o' => o'.after? rest :=
  List.foldlM_append

/-- Once the outermost element is closed nothing more is read. -/
theorem tree_append_of_none (h : o.after? fs = none) :
    o.tree (fs ++ rest) = o.tree fs := by
  induction fs generalizing o with
  | nil => simp [after?] at h
  | cons f fs ih =>
      rw [List.cons_append, tree_cons, tree_cons]
      cases hstep : o.step? f with
      | none => rfl
      | some o₁ =>
          rw [after?, List.foldlM_cons, hstep] at h
          rw [Option.map_some, Option.getD_some, Option.map_some,
            Option.getD_some]
          exact ih h

/-! ## What a fragment can do -/

/-- All that a fragment can do. Once the elements that it ends from outside are
closed, it closes the innermost one, which may have been the last, opens one in
it, or is text in it. -/
theorem step_cases (o : OpenElements) (f : Fragment) :
    let e := endOuter f o.1 o.2
    (e.1.closedBy f = true ∧ e.2 = [] ∧ o.step? f = none) ∨
    (∃ outer around, e.1.closedBy f = true ∧ e.2 = outer :: around ∧
      o.step? f = some (outer.push e.1.toNode, around)) ∨
    (∃ form name, f = .opening form name ∧
      o.step? f = some (.start form name, e.1 :: e.2)) ∨
    (e.1.closedBy f = false ∧ (∀ form name, f ≠ .opening form name) ∧
      o.step? f = some (e.1.pushText f.chars, e.2)) := by
  rw [step?]
  generalize endOuter f o.1 o.2 = e
  obtain ⟨here, around⟩ := e
  dsimp only
  by_cases hclosed : here.closedBy f = true
  · rw [if_pos hclosed]
    cases around with
    | nil => exact .inl ⟨hclosed, rfl, rfl⟩
    | cons outer around => exact .inr (.inl ⟨outer, around, hclosed, rfl, rfl⟩)
  · rw [if_neg hclosed]
    have hopen : here.closedBy f = false := by simpa using hclosed
    cases f with
    | opening form name => exact .inr (.inr (.inl ⟨form, name, rfl, rfl⟩))
    | closingTag name => exact .inr (.inr (.inr ⟨hopen, by simp, rfl⟩))
    | closingBracket => exact .inr (.inr (.inr ⟨hopen, by simp, rfl⟩))
    | plain s => exact .inr (.inr (.inr ⟨hopen, by simp, rfl⟩))

theorem marks_endOuter (f : Fragment) (here : OpenElement)
    (around : List OpenElement) :
    marks (endOuter f here around) <:+ marks (here, around) := by
  induction around generalizing here with
  | nil => exact List.suffix_rfl
  | cons outer around ih =>
      rw [endOuter]
      split
      · have houter :
            marks (outer.push here.toNode, around) <:+ marks
              (here, outer :: around) :=
          List.suffix_cons _ _
        exact (ih _).trans houter
      · exact List.suffix_rfl

/-- What is open behind a fragment was open before it, save for what the
fragment opens. -/
theorem marks_step (h : o.step? f = some o') :
    o'.marks <:+ o.marks ∨
      ∃ form name kept, f = .opening form name ∧
      o'.marks = (form, name) :: kept ∧
        kept ≠ [] ∧ kept <:+ o.marks := by
  have hkept := marks_endOuter f o.1 o.2
  rcases o.step_cases f with ⟨-, -, hstep⟩ | ⟨outer, around, -, he, hstep⟩ |
    ⟨form, name, hf, hstep⟩ | ⟨-, -, hstep⟩
  · exact absurd (h.symm.trans hstep) (by simp)
  · obtain rfl := Option.some.inj (h.symm.trans hstep)
    refine .inl (List.IsSuffix.trans ?_ hkept)
    rw [marks, marks, he]
    exact List.suffix_cons _ _
  · obtain rfl := Option.some.inj (h.symm.trans hstep)
    exact .inr ⟨form, name, _, hf, rfl, by simp, hkept⟩
  · obtain rfl := Option.some.inj (h.symm.trans hstep)
    exact .inl hkept

/-! ## The root -/

/-- The outermost open element is in the long form and has the reserved name. -/
def Rooted (o : OpenElements) : Prop :=
  o.marks.getLast? = some (.long, rootName)

theorem rooted_atStart : atStart.Rooted :=
  rfl

theorem Rooted.of_suffix (h : o.Rooted) (hsuffix : o'.marks <:+ o.marks) :
    o'.Rooted := by
  obtain ⟨ended, hmarks⟩ := hsuffix
  have hne : o'.marks ≠ [] := by simp [marks]
  rw [Rooted, ← hmarks, List.getLast?_append_of_ne_nil _ hne] at h
  exact h

theorem Rooted.of_marks_eq (h : o.Rooted) (hmarks : o'.marks = o.marks) :
    o'.Rooted :=
  h.of_suffix (by rw [hmarks])

theorem Rooted.step (h : o.Rooted) (hstep : o.step? f = some o') :
    o'.Rooted := by
  rcases marks_step hstep
    with hsuffix | ⟨form, name, kept, -, hmarks, hne, ⟨ended, hkept⟩⟩
  · exact h.of_suffix hsuffix
  · rw [Rooted, ← hkept, List.getLast?_append_of_ne_nil _ hne] at h
    rw [Rooted, hmarks, List.getLast?_cons_of_ne_nil hne]
    exact h

theorem Rooted.after (h : o.Rooted) (hafter : o.after? fs = some o') :
    o'.Rooted := by
  induction fs generalizing o with
  | nil =>
      obtain rfl : o = o' := by simpa [after?] using hafter
      exact h
  | cons f fs ih =>
      rw [after?, List.foldlM_cons] at hafter
      obtain ⟨o₁, hstep, hrest⟩ := Option.bind_eq_some_iff.mp hafter
      exact ih (h.step hstep) hrest

/-- The root is closed by its own tag only. -/
theorem Rooted.eq_closingTag (h : o.Rooted) (hnone : o.step? f = none) :
    f = .closingTag rootName := by
  have hkept : Rooted (endOuter f o.1 o.2) :=
    h.of_suffix (marks_endOuter f o.1 o.2)
  rcases o.step_cases f with ⟨hclosed, he, -⟩ | ⟨outer, around, -, -, hstep⟩ |
    ⟨form, name, -, hstep⟩ | ⟨-, -, hstep⟩
  · obtain ⟨hform, hname⟩ : (endOuter f o.1 o.2).1.form = .long ∧
        (endOuter f o.1 o.2).1.name = rootName := by
      simpa [Rooted, marks, he] using hkept
    unfold OpenElement.closedBy at hclosed
    rw [hform, hname] at hclosed
    cases f with
    | closingTag name => simpa using hclosed
    | opening form name => simp at hclosed
    | closingBracket => simp at hclosed
    | plain s => simp at hclosed
  · exact absurd (hnone.symm.trans hstep) (by simp)
  · exact absurd (hnone.symm.trans hstep) (by simp)
  · exact absurd (hnone.symm.trans hstep) (by simp)

/-- Every open element with the reserved name is in the long form. -/
def ReservedLong (o : OpenElements) : Prop :=
  ∀ mark ∈ o.marks, mark.2 = rootName → mark.1 = .long

theorem reservedLong_atStart : atStart.ReservedLong := by
  intro mark hmark _
  obtain rfl : mark = (.long, rootName) := by
    simpa [marks, atStart, OpenElement.start] using hmark
  rfl

theorem ReservedLong.step (h : o.ReservedLong)
    (hf : f ≠ .opening .short rootName)
    (hstep : o.step? f = some o') : o'.ReservedLong := by
  intro mark hmark hname
  rcases marks_step hstep
    with hsuffix | ⟨form, name, kept, rfl, hmarks, -, hkept⟩
  · exact h mark (hsuffix.subset hmark) hname
  · rw [hmarks] at hmark
    rcases List.mem_cons.mp hmark with rfl | hmark
    · cases form with
      | long => rfl
      | short =>
          obtain rfl : name = rootName := hname
          exact absurd rfl hf
    · exact h mark (hkept.subset hmark) hname

/-- Where neither `[tml:` nor `[/tml]` occurs, reading goes on to the end, and
the innermost open element with the reserved name has the long form. -/
theorem exists_after_of_unreserved (h : o.Rooted) (hlong : o.ReservedLong)
    (hfs : ∀ f ∈ fs, f ≠ .opening .short rootName ∧ f ≠ .closingTag rootName) :
    ∃ o', o.after? fs = some o' ∧ o'.reservedForm? = some .long := by
  induction fs generalizing o with
  | nil =>
      refine ⟨o, rfl, ?_⟩
      have hroot : (ElementForm.long, rootName) ∈ o.marks :=
        List.mem_of_getLast? h
      rw [reservedForm?]
      cases hfind : o.marks.find? fun mark => mark.2 == rootName with
      | none => exact absurd (List.find?_eq_none.mp hfind _ hroot) (by simp)
      | some mark =>
          have hname : mark.2 = rootName := by simpa using List.find?_some hfind
          rw [Option.map_some,
            hlong mark (List.mem_of_find?_eq_some hfind) hname]
  | cons f fs ih =>
      obtain ⟨⟨hopening, hclosing⟩, hrest⟩ := List.forall_mem_cons.mp hfs
      cases hstep : o.step? f with
      | none => exact absurd (h.eq_closingTag hstep) hclosing
      | some o₁ =>
          obtain ⟨o', hafter, hform⟩ :=
            ih (h.step hstep) (hlong.step hopening hstep) hrest
          refine ⟨o', ?_, hform⟩
          rw [after?, List.foldlM_cons, hstep]
          exact hafter

end OpenElements
end Markup
end Phrasebook

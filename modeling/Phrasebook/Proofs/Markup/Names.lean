import Phrasebook.Proofs.Markup.Content

/-!
# The names that reading notes

The name of an element is noted where the element is opened, before it is known
what the element holds and where it ends. The tree is made the other way round,
by the elements that end. The two agree all the same: the tree that would come
out if all open elements ended here has just the names that have been noted so
far. An element that ends leaves that tree as it is, a text adds no name to it,
and an element that is opened stands behind all others in it, so its name comes
last.
-/

namespace Phrasebook
namespace Markup

/-! ## Noting several names -/

/-- What is noted of several names: all but the reserved one, each where it
stands first. -/
def noted (names : List String) : List String :=
  (names.filter (· ≠ "tml")).eraseDups

theorem note_noted (names : List String) (name : List Char) :
    note (noted names) name = noted (names ++ [String.ofList name]) := by
  by_cases hreserved : name = rootName
  · have htext : String.ofList name = "tml" := by rw [hreserved]; rfl
    rw [note, if_pos (.inl hreserved), htext]
    simp [noted]
  · have htext : String.ofList name ≠ "tml" := by
      intro heq
      exact hreserved (by rw [← String.toList_ofList (l := name), heq]; rfl)
    by_cases hmem : String.ofList name ∈ names
    · simp [note, noted, hreserved, htext, hmem, List.eraseDups_append,
        List.removeAll]
    · simp [note, noted, hreserved, htext, hmem, List.eraseDups_append,
        List.removeAll, List.eraseDups_cons]

/-- The names once that of the element which a fragment opens is noted. -/
def noteOpening (names : List String) (f : Fragment) : List String :=
  match f.opening? with
  | some mark => note names mark.2
  | none => names

theorem Fragment.opening?_eq_none {f : Fragment}
    (h : ∀ form name, f ≠ .opening form name) :
    f.opening? = none := by
  cases f with
  | opening form name => exact absurd rfl (h form name)
  | closingTag name => rfl
  | closingBracket => rfl
  | plain s => rfl

/-! ## The names of what is open -/

theorem namesAll_append (ns ms : List Node) :
    namesAll (ns ++ ms) = namesAll ns ++ namesAll ms := by
  induction ns with
  | nil => rfl
  | cons n ns ih =>
      rw [List.cons_append, namesAll, namesAll, ih, List.append_assoc]

namespace OpenElement

theorem opening?_eq_none_of_closedBy {e : OpenElement} {f : Fragment}
    (h : e.closedBy f = true) :
    f.opening? = none := by
  refine Fragment.opening?_eq_none fun form name => ?_
  rw [OpenElements.closedBy_iff.mp h]
  cases e.form <;> simp [Fragment.closing]

theorem names_toNode_push (e : OpenElement) (n : Node) :
    (e.push n).toNode.names = e.toNode.names ++ n.names := by
  simp [toNode, push, Node.names, namesAll_append, namesAll]

theorem names_toNode_pushText (e : OpenElement) (s : List Char) :
    (e.pushText s).toNode.names = e.toNode.names := by
  simp [toNode, pushText, Node.names, namesAll_append, namesAll]

theorem names_toNode_start (form : ElementForm) (name : List Char) :
    (start form name).toNode.names = [String.ofList name] := by
  simp [toNode, start, Node.names, namesAll]

end OpenElement

namespace OpenElements

variable {o o' : OpenElements} {f : Fragment} {here here' : OpenElement}

/-- The names of the tree that comes out if all open elements end here. -/
def names (o : OpenElements) : List String :=
  (closeAll o.1 o.2).names

theorem closeAll_endOuter (f : Fragment) (here : OpenElement)
    (around : List OpenElement) :
    closeAll (endOuter f here around).1 (endOuter f here around).2 =
      closeAll here around := by
  induction around generalizing here with
  | nil => rfl
  | cons outer around ih =>
      rw [endOuter]
      split
      · exact ih (outer.push here.toNode)
      · rfl

/-- Names that come last in the innermost element come last in the whole. -/
theorem names_append_of_toNode {ns : List String} (around : List OpenElement)
    (h : here'.toNode.names = here.toNode.names ++ ns) :
    names (here', around) = names (here, around) ++ ns := by
  induction around generalizing here here' with
  | nil => exact h
  | cons outer around ih =>
      have houter : (outer.push here'.toNode).toNode.names =
          (outer.push here.toNode).toNode.names ++ ns := by
        rw [OpenElement.names_toNode_push, OpenElement.names_toNode_push, h,
          List.append_assoc]
      exact ih houter

/-- One more fragment puts the name that it opens behind all others. -/
theorem names_step (h : o.step? f = some o') :
    o'.names = o.names ++
      (f.opening?.map fun mark => String.ofList mark.2).toList := by
  have hended : names (endOuter f o.1 o.2) = o.names :=
    congrArg Node.names (closeAll_endOuter f o.1 o.2)
  rcases o.step_cases f with ⟨-, -, hstep⟩ |
    ⟨outer, around, hclosed, he, hstep⟩ |
    ⟨form, name, rfl, hstep⟩ | ⟨-, hopening, hstep⟩
  · exact absurd (h.symm.trans hstep) (by simp)
  · -- The element that the fragment closes ends here in any case.
    obtain rfl := Option.some.inj (h.symm.trans hstep)
    rw [← hended, names, names, he,
      OpenElement.opening?_eq_none_of_closedBy hclosed]
    exact (List.append_nil _).symm
  · obtain rfl := Option.some.inj (h.symm.trans hstep)
    have hlast : ((endOuter (.opening form name) o.1 o.2).1.push
        (OpenElement.start form name).toNode).toNode.names =
          (endOuter (.opening form name) o.1 o.2).1.toNode.names ++
            [String.ofList name] := by
      rw [OpenElement.names_toNode_push, OpenElement.names_toNode_start]
    rw [← hended]
    exact names_append_of_toNode _ hlast
  · obtain rfl := Option.some.inj (h.symm.trans hstep)
    have htext : ((endOuter f o.1 o.2).1.pushText f.chars).toNode.names =
        (endOuter f o.1 o.2).1.toNode.names ++ [] := by
      rw [OpenElement.names_toNode_pushText, List.append_nil]
    rw [← hended, Fragment.opening?_eq_none hopening]
    exact names_append_of_toNode _ htext

theorem names_endOuter_of_step?_eq_none (h : o.step? f = none) :
    (endOuter f o.1 o.2).1.toNode.names = o.names := by
  have hended := closeAll_endOuter f o.1 o.2
  rcases o.step_cases f with ⟨-, he, -⟩ | ⟨outer, around, -, -, hstep⟩ |
    ⟨form, name, -, hstep⟩ | ⟨-, -, hstep⟩
  · rw [he] at hended
    exact congrArg Node.names hended
  · exact absurd (h.symm.trans hstep) (by simp)
  · exact absurd (h.symm.trans hstep) (by simp)
  · exact absurd (h.symm.trans hstep) (by simp)

/-! ## Reading to the end -/

theorem build_cons (names : List String) (o : OpenElements) (f : Fragment)
    (fs : List Fragment) :
    build names o.1 o.2 (f :: fs) =
      match o.step? f with
      | some o' => build (noteOpening names f) o'.1 o'.2 fs
      | none => ⟨(endOuter f o.1 o.2).1.toNode, names⟩ := by
  rw [build, step?]
  generalize endOuter f o.1 o.2 = e
  obtain ⟨here, around⟩ := e
  dsimp only
  by_cases hclosed : here.closedBy f = true
  · -- A fragment that closes an element opens none, so nothing is noted.
    have hnote : noteOpening names f = names := by
      rw [noteOpening, OpenElement.opening?_eq_none_of_closedBy hclosed]
    rw [if_pos hclosed, if_pos hclosed]
    cases around with
    | nil => rfl
    | cons outer around => exact congrArg (build · _ _ fs) hnote.symm
  · rw [if_neg hclosed, if_neg hclosed]
    cases f with
    | opening form name => rfl
    | closingTag name => rfl
    | closingBracket => rfl
    | plain s => rfl

/-- If what is noted are the names of what is open, it is the names of the tree
in the end. -/
theorem names_build {names : List String} (h : names = noted o.names)
    (fs : List Fragment) :
    (build names o.1 o.2 fs).names =
      noted (build names o.1 o.2 fs).tree.names := by
  induction fs generalizing o names with
  | nil => exact h
  | cons f fs ih =>
      rw [build_cons]
      cases hstep : o.step? f with
      | none =>
          exact h.trans
            (congrArg noted (names_endOuter_of_step?_eq_none hstep).symm)
      | some o' =>
          refine ih ?_
          rw [names_step hstep, noteOpening, h]
          cases f.opening? with
          | none => exact congrArg noted (List.append_nil _).symm
          | some mark => exact note_noted o.names mark.2

end OpenElements

/-- The names that reading a label yields are those of its tree, each element
before the elements inside it, without the reserved name and each where it
stands first. -/
theorem names_read (label : String) :
    (read label).names =
      ((read label).tree.names.filter (· ≠ "tml")).eraseDups := by
  have hread : read label =
      build [] OpenElements.atStart.1 OpenElements.atStart.2
      (Fragment.split
        (label.toList ++ (Fragment.closingTag rootName).chars)) := by
    rw [read, wrap, List.append_assoc,
      Fragment.split_opening .long isWord_rootName]
    rfl
  have hstart : [] = noted OpenElements.atStart.names := rfl
  rw [hread]
  exact OpenElements.names_build hstart _

example : (read "[b: [i]x[tml: [b]y] z").names = ["b", "i"] := by
  decide +kernel

end Markup
end Phrasebook

import Phrasebook.Proofs.Markup.Fragments
import Phrasebook.Proofs.Text.Splitting

/-!
# Reading what was written

Nodes may be written in many ways, as each element has a short and a long form.
Reading a written form gives the nodes back, whatever form each element has.
Names do not matter to this: an element may have the reserved name, or the name
of an element around it, since an element takes the marks of the elements inside
it for itself before its own closing mark is looked for.
-/

namespace Phrasebook
namespace Markup

open Text (Stops stops_cons)

def firstText? : List Node → Option String
  | [] => none
  | .text s :: _ => some s
  | .element _ _ :: ns => firstText? ns

/-- The nodes can be told apart once they are written: no text is empty, holds a
bracket or stands next to another text, and names are made of word
characters. -/
inductive WellFormed : List Node → Prop where
  | nil : WellFormed []
  | text {s : String} {ns : List Node} (hne : s.toList ≠ [])
      (hplain : ∀ c ∈ s.toList, c ≠ '[' ∧ c ≠ ']')
        (hnext : ∀ s' ns', ns ≠ .text s' :: ns')
      (hrest : WellFormed ns) : WellFormed (.text s :: ns)
  | element {name : String} {children ns : List Node}
      (hname : ∀ c ∈ name.toList, Unicode.isWord c = true)
        (hchildren : WellFormed children)
      (hrest : WellFormed ns) : WellFormed (.element name children :: ns)

def ElementForm.front : ElementForm → (name : List Char) → List Char
  | .short, name => '[' :: name ++ [':']
  | .long, name => '[' :: name ++ [']']

def ElementForm.back : ElementForm → (name : List Char) → List Char
  | .short, _ => [']']
  | .long, name => '[' :: '/' :: name ++ [']']

/-- The ways to write nodes. An element may have either form, but the short one
only if the first text directly in it does not begin with a blank. -/
inductive Written : List Node → List Char → Prop where
  | nil : Written [] []
  | text {s : String} {ns : List Node} {t : List Char} (hrest : Written ns t) :
      Written (.text s :: ns) (s.toList ++ t)
  | element (form : ElementForm) {name : String} {children ns : List Node}
      {body t : List Char}
      (hfirst : form = .short → ∀ s ∈ firstText? children,
        Stops Text.isBlank s.toList)
      (hchildren : Written children body) (hrest : Written ns t) :
      Written (.element name children :: ns)
        (form.front name.toList ++ body ++ form.back name.toList ++ t)

/-! ## The steps of reading -/

variable {names : List String} {here outer : OpenElement}
    {around : List OpenElement}
  {f : Fragment} {rest : List Fragment}

theorem endOuter_of_not_endedBy (h : here.endedBy f = false) :
    endOuter f here around = (here, around) := by
  cases around with
  | nil => rfl
  | cons outer around => simp [endOuter, h]

theorem build_plain (s : List Char) :
    build names here around (.plain s :: rest) =
      build names (here.pushText s) around rest := by
  have hended : here.endedBy (.plain s) = false := by simp [OpenElement.endedBy]
  have hclosed : here.closedBy (.plain s) = false := by
    simp [OpenElement.closedBy]
  simp [build, endOuter_of_not_endedBy hended, hclosed, Fragment.chars]

theorem build_opening (form : ElementForm) (name : List Char) :
    build names here around (.opening form name :: rest) =
      build (note names name) (.start form name) (here :: around) rest := by
  have hended : here.endedBy (.opening form name) = false := by
    simp [OpenElement.endedBy]
  have hclosed : here.closedBy (.opening form name) = false := by
    simp [OpenElement.closedBy]
  simp [build, endOuter_of_not_endedBy hended, hclosed]

theorem build_closing (hended : here.endedBy f = false)
    (hclosed : here.closedBy f = true) :
    build names here (outer :: around) (f :: rest) =
      build names (outer.push here.toNode) around rest := by
  simp [build, endOuter_of_not_endedBy hended, hclosed]

theorem build_last (hclosed : here.closedBy f = true) :
    build names here [] (f :: rest) = ⟨here.toNode, names⟩ := by
  simp [build, endOuter, hclosed]

/-- The closing tag of an element never ends the element from outside. -/
theorem endedBy_own_tag (e : OpenElement) :
    e.endedBy (.closingTag e.name) = false := by
  by_cases hname : e.name = rootName
  · simp [OpenElement.endedBy, hname]
  · simp [OpenElement.endedBy, hname]

/-! ## Reading several nodes -/

namespace OpenElement

def extend (e : OpenElement) (ns : List Node) : OpenElement :=
  { e with
    awaitsText := e.awaitsText && (firstText? ns).isNone
    children := ns.reverse ++ e.children }

/-- The nodes keep their blanks in the element: if its first text is still to
come, that is no text with blanks in front. -/
def Keeps (e : OpenElement) (ns : List Node) : Prop :=
  e.awaitsText = true → ∀ s ∈ firstText? ns, Stops Text.isBlank s.toList

theorem extend_nil (e : OpenElement) : e.extend [] = e := by
  simp [extend, firstText?]

theorem extend_text (e : OpenElement) (s : String) (ns : List Node)
    (hkeeps : e.Keeps (.text s :: ns)) :
    (e.pushText s.toList).extend ns = e.extend (.text s :: ns) := by
  have htext : (if e.awaitsText then Text.trimLeft s.toList else s.toList) =
      s.toList := by
    by_cases hawaits : e.awaitsText = true
    · rw [if_pos hawaits]
      exact Text.trimLeft_eq_self (hkeeps hawaits s rfl)
    · rw [if_neg hawaits]
  simp [extend, pushText, firstText?, htext]

theorem extend_element (e : OpenElement) (name : String)
    (children ns : List Node) :
    (e.push (.element name children)).extend ns =
      e.extend (.element name children :: ns) := by
  simp [extend, push, firstText?]

theorem toNode_extend_start (form : ElementForm) (name : String)
    (ns : List Node) :
    ((start form name.toList).extend ns).toNode = .element name ns := by
  simp [toNode, extend, start]

end OpenElement

/-! ## Written elements -/

def Fragment.closing : ElementForm → (name : List Char) → Fragment
  | .short, _ => .closingBracket
  | .long, name => .closingTag name

variable {form : ElementForm} {name : List Char} {chars : List Char}

theorem split_front (hname : ∀ c ∈ name, Unicode.isWord c = true) :
    Fragment.split (form.front name ++ chars) =
      .opening form name :: Fragment.split chars := by
  cases form with
  | short => exact Fragment.split_opening .short hname
  | long => exact Fragment.split_opening .long hname

theorem split_back (hname : ∀ c ∈ name, Unicode.isWord c = true) :
    Fragment.split (form.back name ++ chars) =
      .closing form name :: Fragment.split chars := by
  cases form with
  | short => exact Fragment.split_closingBracket
  | long => exact Fragment.split_closingTag hname

theorem stops_isPlain_front :
    Stops Fragment.isPlain (form.front name ++ chars) := by
  cases form <;> exact stops_cons.mpr rfl

theorem stops_isPlain_back :
    Stops Fragment.isPlain (form.back name ++ chars) := by
  cases form <;> exact stops_cons.mpr rfl

/-- An element is closed by the mark of its own form, and no mark of its own
ends it from outside. -/
theorem closedBy_closing (form : ElementForm) (name : List Char)
    (ns : List Node) :
    ((OpenElement.start form name).extend ns).endedBy (.closing form name) =
      false ∧
      ((OpenElement.start form name).extend ns).closedBy (.closing form name) =
        true := by
  cases form with
  | short =>
      simp [OpenElement.endedBy, OpenElement.closedBy, OpenElement.extend,
      OpenElement.start, Fragment.closing]
  | long =>
      refine ⟨endedBy_own_tag ((OpenElement.start .long name).extend ns), ?_⟩
      simp [OpenElement.closedBy, OpenElement.extend, OpenElement.start,
        Fragment.closing]

/-! ## Written nodes -/

/-- Behind a text a bracket follows or what is behind the nodes. -/
theorem Written.stops_isPlain {ns : List Node} {t : List Char}
    (ht : Written ns t) (hnext : ∀ s ns', ns ≠ .text s :: ns')
    (hchars : Stops Fragment.isPlain chars) :
    Stops Fragment.isPlain (t ++ chars) := by
  cases ht with
  | nil => exact hchars
  | text => exact absurd rfl (hnext _ _)
  | element form =>
      simp only [List.append_assoc]
      exact stops_isPlain_front

/-- Wherever nodes are written, reading puts them into the innermost open
element. -/
theorem Written.build_split {ns : List Node} {t : List Char} (ht : Written ns t)
    (hns : WellFormed ns) (hchars : Stops Fragment.isPlain chars)
    (hkeeps : here.Keeps ns) (names : List String) (around : List OpenElement) :
    ∃ names', build names here around (Fragment.split (t ++ chars)) =
      build names' (here.extend ns) around (Fragment.split chars) := by
  -- The elements around grow on the way into an element, so the induction keeps
  -- them free.
  induction ht generalizing here around chars names with
  | nil => exact ⟨names, by rw [here.extend_nil, List.nil_append]⟩
  | @text s ns t ht ih =>
      cases hns with
      | text hne hplain hnext hns =>
          have hall : ∀ c ∈ s.toList, Fragment.isPlain c = true := by
            simpa [Fragment.isPlain] using hplain
          have hstops := ht.stops_isPlain hnext hchars
          have hsplit := Fragment.split_plain hne hall hstops
          have hafter : (here.pushText s.toList).Keeps ns := by
            intro hawaits
            simp [OpenElement.pushText] at hawaits
          obtain ⟨names', htail⟩ := ih hns hchars hafter names around
          refine ⟨names', ?_⟩
          rw [← here.extend_text s ns hkeeps, ← htail, ← build_plain, ← hsplit,
            Fragment.chars, List.append_assoc]
  | @element form name children ns body t hfirst hbody ht ihbody ih =>
      cases hns with
      | element hname hchildren hns =>
          have hinside :
              (OpenElement.start form name.toList).Keeps children := by
            intro hawaits
            exact hfirst (by simpa [OpenElement.start] using hawaits)
          have hafter : (here.push (.element name children)).Keeps ns := hkeeps
          have hback : Stops Fragment.isPlain
              (form.back name.toList ++ (t ++ chars)) :=
            stops_isPlain_back
          obtain ⟨names₁, hinner⟩ :=
            ihbody hchildren hback hinside (note names name.toList)
              (here :: around)
          obtain ⟨names₂, htail⟩ := ih hns hchars hafter names₁ around
          refine ⟨names₂, ?_⟩
          have hclose := closedBy_closing form name.toList children
          simp only [List.append_assoc]
          rw [split_front hname, build_opening, hinner, split_back hname,
            build_closing hclose.1 hclose.2, OpenElement.toNode_extend_start,
            htail, OpenElement.extend_element]

/-- Reading markup undoes writing it. Whatever form each element is written in,
the tree of the written text has the nodes below the root, also when elements
have the reserved name or the name of an element around them. -/
theorem tree_read_of_written {ns : List Node} (hns : WellFormed ns) {t : String}
    (ht : Written ns t.toList) : (read t).tree = .element "tml" ns := by
  have hroot : ∀ c ∈ rootName, Unicode.isWord c = true := by
    simp [rootName, Unicode.isWord, Unicode.isAsciiWord]
  have hwrap : wrap t.toList =
      ElementForm.long.front rootName ++
        (t.toList ++ (ElementForm.long.back rootName ++ [])) := by
    simp [wrap, ElementForm.front, ElementForm.back, Fragment.chars]
  have hkeeps : (OpenElement.start .long rootName).Keeps ns := by
    intro hawaits
    simp [OpenElement.start] at hawaits
  have hstops : Stops Fragment.isPlain (ElementForm.long.back rootName ++ []) :=
    stops_isPlain_back
  obtain ⟨names, hbuild⟩ :=
    ht.build_split hns hstops hkeeps (note [] rootName) []
  have hclosed := (closedBy_closing .long rootName ns).2
  rw [split_back hroot, build_last hclosed] at hbuild
  rw [read, hwrap, split_front hroot]
  simp only [hbuild]
  exact OpenElement.toNode_extend_start .long "tml" ns

/-- An element with the reserved name, and in it an element inside another of
its name. -/
def notice : List Node :=
  [.element "tml"
    [.text ": ", .element "b" [.element "b" [.text " a"], .text "c"]],
    .text "d"]

theorem tree_read_notice :
    (read "[tml]: [b:[b] a[/b]c][/tml]d").tree = .element "tml" notice := by
  have hname : ∀ c ∈ "tml".toList ++ "b".toList, Unicode.isWord c = true := by
    simp [Unicode.isWord, Unicode.isAsciiWord]
  obtain ⟨html, hb⟩ := List.forall_mem_append.mp hname
  have hinner : WellFormed [.element "b" [.text " a"], .text "c"] :=
    .element hb (.text (by simp) (by simp) (by simp) .nil)
      (.text (by simp) (by simp) (by simp) .nil)
  have hnotice : WellFormed notice :=
    .element html
      (.text (by simp) (by simp) (by simp) (.element hb hinner .nil))
      (.text (by simp) (by simp) (by simp) .nil)
  have hfirst : ∀ s ∈ firstText? [.element "b" [.text " a"], .text "c"],
      Stops Text.isBlank s.toList := by
    simp [firstText?, Text.isBlank]
  have hwritten : Written notice "[tml]: [b:[b] a[/b]c][/tml]d".toList :=
    .element .long (by simp) (.text (.element .short (fun _ => hfirst)
      (.element .long (by simp) (.text .nil) (.text .nil)) .nil)) (.text .nil)
  exact tree_read_of_written hnotice hwritten

end Markup
end Phrasebook

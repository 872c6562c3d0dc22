import Phrasebook.Markup.Render
import Phrasebook.Proofs.Markup.OpenElements

/-!
# Text at the end of a label

A label is read inside the root, in front of the closing tag of the root, which
ends whatever other elements the label has left open. An element with the
reserved name is not ended from outside, though, even if it is not the root. So
what becomes of text behind all markup depends on the innermost open element of
that name. If it has the long form, as the root has, the tag closes it, and the
text ends up at the end of what is shown. If it has the short form, it takes the
tag for text. If there is none, the label has closed the root itself, and the
text is not read at all.
-/

namespace Phrasebook
namespace Markup

open Text (Stops)

/-! ## What is shown -/

mutual

def Node.bare : Node → List Char
  | .text s => s.toList
  | .element _ children => bareAll children

def bareAll : List Node → List Char
  | [] => []
  | n :: ns => n.bare ++ bareAll ns

end

theorem bareAll_append (ns ms : List Node) :
    bareAll (ns ++ ms) = bareAll ns ++ bareAll ms := by
  induction ns with
  | nil => rfl
  | cons n ns ih =>
      rw [List.cons_append, bareAll, bareAll, ih, List.append_assoc]

namespace OpenElement

/-- The text in an open element so far. -/
def bare (e : OpenElement) : List Char :=
  bareAll e.children.reverse

theorem bare_push (e : OpenElement) (n : Node) :
    (e.push n).bare = e.bare ++ n.bare := by
  simp [bare, push, bareAll_append, bareAll]

theorem bare_toNode (e : OpenElement) : e.toNode.bare = e.bare := by
  rw [toNode, Node.bare, bare]

theorem bare_pushText (e : OpenElement) (s : List Char) :
    (e.pushText s).bare = e.bare ++ if e.awaitsText then Text.trimLeft s
      else s := by
  simp [bare, pushText, bareAll_append, bareAll, Node.bare]

end OpenElement

namespace OpenElements

variable {o : OpenElements}

/-- The text in all open elements so far. -/
def bare (o : OpenElements) : List Char :=
  ((o.1 :: o.2).map OpenElement.bare).reverse.flatten

theorem bare_close (here outer : OpenElement) (around : List OpenElement) :
    bare (outer.push here.toNode, around) = bare (here, outer :: around) := by
  simp [bare, OpenElement.bare_push, OpenElement.bare_toNode]

theorem bare_closeAll (here : OpenElement) (around : List OpenElement) :
    (closeAll here around).bare = bare (here, around) := by
  induction around generalizing here with
  | nil => simp [closeAll, bare, OpenElement.bare_toNode]
  | cons outer around ih => rw [closeAll, ih, bare_close]

theorem bare_pushText (here : OpenElement) (around : List OpenElement)
    (s : List Char) :
    bare (here.pushText s, around) =
      bare (here, around) ++ if here.awaitsText then Text.trimLeft s
        else s := by
  simp [bare, OpenElement.bare_pushText]

/-- The closing tag of the root ends the elements inside the innermost one with
its name. -/
theorem endOuter_closingTag (h : o.Rooted) :
    let e := endOuter (.closingTag rootName) o.1 o.2
    e.1.name = rootName ∧ o.reservedForm? = some e.1.form ∧
      bare e = o.bare := by
  obtain ⟨here, around⟩ := o
  induction around generalizing here with
  | nil =>
      have hname : here.name = rootName := by
        have hroot := h
        simp only [Rooted, marks, List.map_cons, List.map_nil,
          List.getLast?_singleton, Option.some.injEq, Prod.mk.injEq] at hroot
        exact hroot.2
      exact ⟨hname, by simp [reservedForm?, marks, endOuter, hname], rfl⟩
  | cons outer around ih =>
      by_cases hname : here.name = rootName
      · have hstays : endOuter (.closingTag rootName) here (outer :: around) =
            (here, outer :: around) := by
          simp [endOuter, OpenElement.endedBy, hname]
        dsimp only
        rw [hstays]
        exact ⟨hname, by simp [reservedForm?, marks, hname], rfl⟩
      · have hends : endOuter (.closingTag rootName) here (outer :: around) =
            endOuter (.closingTag rootName)
              (outer.push here.toNode) around := by
          simp [endOuter, OpenElement.endedBy, hname]
        have houter : Rooted (outer.push here.toNode, around) :=
          h.of_suffix (List.suffix_cons _ _)
        obtain ⟨hreserved, hform, hbare⟩ := ih (outer.push here.toNode) houter
        dsimp only
        rw [hends]
        refine ⟨hreserved, ?_, hbare.trans (bare_close here outer around)⟩
        rw [← hform]
        simp [reservedForm?, marks, hname, OpenElement.push]

/-- What the closing tag of the root leaves behind, if the innermost open
element with the name of the root has the given form. The tag closes one in the
long form, and is text in one in the short form. -/
def ending : ElementForm → List Char
  | .short => (Fragment.closingTag rootName).chars
  | .long => []

theorem Rooted.bare_tree_closingTag (h : o.Rooted) :
    ∃ form, o.reservedForm? = some form ∧
    (o.tree [.closingTag rootName]).bare = o.bare ++ ending form := by
  obtain ⟨hname, hform, hbare⟩ := endOuter_closingTag h
  refine ⟨_, hform, ?_⟩
  have hcases := o.step_cases (.closingTag rootName)
  rw [tree_cons]
  generalize endOuter (.closingTag rootName) o.1 o.2 = e at hname hbare hcases
  obtain ⟨here, around⟩ := e
  dsimp only at hname hcases ⊢
  cases hlast : here.form with
  | long =>
      have hclosed : here.closedBy (.closingTag rootName) = true := by
        simp [OpenElement.closedBy, hlast, hname]
      rw [ending, List.append_nil, ← hbare]
      rcases hcases with ⟨-, rfl, hstep⟩ | ⟨outer, around, -, rfl, hstep⟩ |
        ⟨form, name, hf, -⟩ |
        ⟨hopen, -⟩
      · rw [hstep]
        exact bare_closeAll here []
      · rw [hstep]
        exact (bare_closeAll _ around).trans (bare_close here outer around)
      · exact absurd hf (by simp)
      · exact absurd (hclosed.symm.trans hopen) (by simp)
  | short =>
      have hopen : here.closedBy (.closingTag rootName) = false := by
        simp [OpenElement.closedBy, hlast]
      rcases hcases with ⟨hclosed, -⟩ | ⟨outer, around, hclosed, -⟩ |
        ⟨form, name, hf, -⟩ |
        ⟨-, -, hstep⟩
      · exact absurd (hclosed.symm.trans hopen) (by simp)
      · exact absurd (hclosed.symm.trans hopen) (by simp)
      · exact absurd hf (by simp)
      · have htrim : Text.trimLeft (Fragment.closingTag rootName).chars =
            (Fragment.closingTag rootName).chars := by decide
        have htext :=
          bare_pushText here around (Fragment.closingTag rootName).chars
        rw [htrim, ite_self, hbare] at htext
        rw [hstep, ending, ← htext]
        exact bare_closeAll _ around

/-- A stretch without brackets is put into the innermost element, which leaves
the same elements open. -/
theorem exists_after_ofPlain (o : OpenElements) (s : List Char) :
    ∃ o', o.after? (Fragment.ofPlain s) = some o' ∧ o'.marks = o.marks ∧
      o'.bare = o.bare ++ if o.1.awaitsText then Text.trimLeft s else s := by
  by_cases hs : s = []
  · refine ⟨o, by simp [hs, Fragment.ofPlain, after?], rfl, ?_⟩
    simp [hs, Text.trimLeft]
  · obtain ⟨here, around⟩ := o
    refine ⟨(here.pushText s, around), ?_, rfl, bare_pushText here around s⟩
    have hended : here.endedBy (.plain s) = false := by
      simp [OpenElement.endedBy]
    have hclosed : ¬ here.closedBy (.plain s) = true := by
      simp [OpenElement.closedBy]
    simp [Fragment.ofPlain, hs, after?, step?, endOuter_of_not_endedBy hended,
      hclosed, Fragment.chars]

end OpenElements

/-! ## Labels -/

/-- The form of the innermost open element with the reserved name behind a
label; nothing, once the label has closed the root. -/
def reservedAfter? (label : List Char) : Option ElementForm :=
  (OpenElements.atStart.after? (Fragment.split label)).bind
    OpenElements.reservedForm?

theorem isWord_rootName : ∀ c ∈ rootName, Unicode.isWord c = true := by
  simp [rootName, Unicode.isWord, Unicode.isAsciiWord]

theorem tree_read (label : String) :
    (read label).tree = OpenElements.atStart.tree
    (Fragment.split
      (label.toList ++ (Fragment.closingTag rootName).chars)) := by
  rw [read, wrap, List.append_assoc,
    Fragment.split_opening .long isWord_rootName]
  exact OpenElements.tree_build _ OpenElements.atStart _

theorem split_rootTag : Fragment.split (Fragment.closingTag rootName).chars =
    [.closingTag rootName] := by
  have hsplit : Fragment.split ((Fragment.closingTag rootName).chars ++ []) =
      .closingTag rootName :: Fragment.split [] :=
    Fragment.split_closingTag isWord_rootName
  rwa [List.append_nil] at hsplit

/-- The closing tag of the root is a fragment of its own behind any label. -/
theorem split_append_rootTag (label : List Char) :
    Fragment.split (label ++ (Fragment.closingTag rootName).chars) =
      Fragment.split label ++ [.closingTag rootName] := by
  obtain ⟨fs, s, hcut⟩ := Fragment.exists_cutInto label
  have halone : Fragment.split (label ++ ([] ++ [])) = _ :=
    hcut ⟨by simp, .inl rfl⟩
  have hbehind :
      Fragment.split (label ++ ([] ++ (Fragment.closingTag rootName).chars)) =
        _ :=
    hcut ⟨by simp, .inr ⟨_, rfl⟩⟩
  rw [List.nil_append, List.append_nil, split_rootTag] at hbehind
  have hnil : Fragment.split [] = [] := rfl
  rw [List.append_nil, List.append_nil, List.append_nil, hnil, List.append_nil]
    at halone
  rw [hbehind, halone, List.append_assoc]

/-- Text behind all markup is not read once the label has closed the root.
Otherwise it stands behind what the label shows and in front of what the closing
tag of the root leaves behind. -/
theorem bare_read_append (label : String) {text : String}
    (hplain : ∀ c ∈ text.toList, Fragment.isMarkless c = true)
    (hblank : Stops Text.isBlank text.toList) :
    (reservedAfter? label.toList = none ∧
      (read (label ++ text)).tree = (read label).tree) ∨
      ∃ form front, reservedAfter? label.toList = some form ∧
        (read label).tree.bare = front ++ OpenElements.ending form ∧
        (read (label ++ text)).tree.bare =
          front ++ text.toList ++ OpenElements.ending form := by
  obtain ⟨fs, s, hcut⟩ := Fragment.exists_cutInto label.toList
  have hwhole : Fragment.split label.toList = fs ++ Fragment.ofPlain s := by
    have hend : Fragment.split (label.toList ++ ([] ++ [])) = _ :=
      hcut ⟨by simp, .inl rfl⟩
    simpa [Fragment.split, Fragment.splitFrom] using hend
  have htree : (read label).tree =
      OpenElements.atStart.tree
        (fs ++ (Fragment.ofPlain s ++ [.closingTag rootName])) := by
    rw [tree_read, split_append_rootTag, hwhole, List.append_assoc]
  have htree' : (read (label ++ text)).tree = OpenElements.atStart.tree
      (fs ++
        (Fragment.ofPlain (s ++ text.toList) ++ [.closingTag rootName])) := by
    have hend : Fragment.split
        (label.toList ++
          (text.toList ++ (Fragment.closingTag rootName).chars)) = _ :=
      hcut ⟨hplain, .inr ⟨_, rfl⟩⟩
    rw [split_rootTag] at hend
    rw [tree_read, String.toList_append, List.append_assoc, hend]
  rw [reservedAfter?, hwhole, OpenElements.after?_append]
  cases hfs : OpenElements.atStart.after? fs with
  | none =>
      left
      rw [htree, htree', OpenElements.tree_append_of_none hfs,
        OpenElements.tree_append_of_none hfs]
      exact ⟨rfl, rfl⟩
  | some o =>
      right
      have hrooted := OpenElements.rooted_atStart.after hfs
      obtain ⟨o₁, hafter₁, hmarks₁, hbare₁⟩ := o.exists_after_ofPlain s
      obtain ⟨o₂, hafter₂, hmarks₂, hbare₂⟩ :=
        o.exists_after_ofPlain (s ++ text.toList)
      have hlonger : o₂.bare = o₁.bare ++ text.toList := by
        rw [hbare₁, hbare₂, Text.trimLeft_append_of_stops hblank]
        split
        · rw [List.append_assoc]
        · rw [List.append_assoc]
      obtain ⟨form, hform, hend₁⟩ :=
        (hrooted.of_marks_eq hmarks₁).bare_tree_closingTag
      obtain ⟨form', hform', hend₂⟩ :=
        (hrooted.of_marks_eq hmarks₂).bare_tree_closingTag
      obtain rfl : form = form' := by
        rw [OpenElements.reservedForm?, hmarks₂, ← hmarks₁] at hform'
        exact Option.some.inj (hform.symm.trans hform')
      refine ⟨form, o₁.bare, ?_, ?_, ?_⟩
      · rw [Option.bind_some, hafter₁, Option.bind_some, hform]
      · rw [htree, OpenElements.tree_append_of_some hfs,
          OpenElements.tree_append_of_some hafter₁, hend₁]
      · rw [htree', OpenElements.tree_append_of_some hfs,
          OpenElements.tree_append_of_some hafter₂, hend₂, hlonger]

end Markup

namespace Rendering

open Markup

/-- A rendering without data, settings and restrictions that puts nothing around
texts. -/
def undecorated (language : Grammar) (evaluator : Evaluator) : Rendering where
  data := Table.empty
  language
  decorator := Decorator.plain
  settings := Settings.standard
  options := Options.standard
  evaluator

variable {language : Grammar} {evaluator : Evaluator} {options : Options}

theorem value_decorate_undecorated (label name content : String) :
    ({ undecorated language evaluator with options := options }.decorate
      label name content).value = content := by
  unfold decorate
  split
  · rfl
  · rfl

mutual

/-- Whatever may be filled in, without data nothing is put around the texts. -/
theorem value_nodeText_undecorated (label : String) : (n : Node) →
    ({ undecorated language evaluator with options := options }.nodeText label
      n).value =
      String.ofList n.bare
  | .text s => String.ofList_toList.symm
  | .element name children => by
    rw [nodeText, Logged.value_bind, value_decorate_undecorated,
      value_nodeTexts_undecorated label children, Node.bare]

theorem value_nodeTexts_undecorated (label : String) : (ns : List Node) →
    ({ undecorated language evaluator with options := options }.nodeTexts label
      ns).value =
      String.ofList (bareAll ns)
  | [] => rfl
  | n :: ns => by
    rw [nodeTexts, Logged.value_bind, Logged.value_bind,
      value_nodeText_undecorated label n, value_nodeTexts_undecorated label ns,
      bareAll, String.ofList_append]
    rfl

end

/-- What becomes of text without marks, and without a blank in front, behind a
label. If the innermost open element with the reserved name has the long form,
as the root has, the text is shown behind everything else; this is so whenever
the label spells neither `[tml:` nor `[/tml]`. If it has the short form, the
closing tag of the root is shown behind the text. If the label has closed the
root, the text is not shown. -/
theorem value_fillMarkup_append (language : Grammar) (evaluator : Evaluator)
    (label : String)
    {text : String} (hplain : ∀ c ∈ text.toList, c ≠ '[' ∧ c ≠ ']' ∧ c ≠ ':')
    (hblank : Text.Stops Text.isBlank text.toList) :
    let shown := fun l => ((undecorated language evaluator).fillMarkup l).value
    ((∀ f ∈ Fragment.split label.toList,
        f ≠ .opening .short rootName ∧ f ≠ .closingTag rootName) →
      reservedAfter? label.toList = some .long) ∧
    (reservedAfter? label.toList = some .long →
      shown (label ++ text) = shown label ++ text) ∧
    (reservedAfter? label.toList = some .short → ∃ front,
      shown label = front ++ "[/tml]" ∧
        shown (label ++ text) = front ++ text ++ "[/tml]") ∧
    (reservedAfter? label.toList = none →
      shown (label ++ text) = shown label) := by
  intro shown
  have hshown : ∀ l, shown l = String.ofList (read l).tree.bare :=
    fun l => value_nodeText_undecorated l _
  have htag : String.ofList (OpenElements.ending .short) = "[/tml]" := rfl
  have hmarkless : ∀ c ∈ text.toList, Fragment.isMarkless c = true := by
    simpa [Fragment.isMarkless, and_assoc] using hplain
  refine ⟨fun hfs => ?_, ?_⟩
  · obtain ⟨o, hafter, hform⟩ := OpenElements.exists_after_of_unreserved
      OpenElements.rooted_atStart OpenElements.reservedLong_atStart hfs
    rw [reservedAfter?, hafter, Option.bind_some, hform]
  · rcases bare_read_append label hmarkless hblank with
      ⟨hnone, htree⟩ | ⟨form, front, hform, hbare, hbare'⟩
    · rw [hnone, hshown, hshown, htree]
      exact ⟨fun hform => absurd hform (by simp),
        fun hform => absurd hform (by simp), fun _ => rfl⟩
    · rw [hform, hshown, hshown, hbare, hbare']
      cases form with
      | long =>
          refine ⟨fun _ => ?_, fun hform => absurd hform (by simp),
            fun hform => absurd hform (by simp)⟩
          simp [OpenElements.ending, String.ofList_append]
      | short =>
          refine ⟨fun hform => absurd hform (by simp),
            fun _ => ⟨String.ofList front, ?_, ?_⟩,
            fun hform => absurd hform (by simp)⟩
          · rw [String.ofList_append, htag]
          · rw [String.ofList_append, String.ofList_append, htag,
              String.ofList_toList]

/-- Elements that are left open do no harm, not even one with the reserved name
in the long form. -/
theorem fillMarkup_left_open :
    let shown := fun l =>
      ((undecorated (Language.bare "en" "English")
        (Evaluator.standard default)).fillMarkup l).value
    shown "see [b: [tml][i]this " = "see this " ∧
      shown ("see [b: [tml][i]this " ++ "one") = "see this " ++ "one" := by
  intro shown
  have hplain : ∀ c ∈ "one".toList, c ≠ '[' ∧ c ≠ ']' ∧ c ≠ ':' := by simp
  have hblank : Text.Stops Text.isBlank "one".toList := by simp [Text.isBlank]
  have hform : reservedAfter? "see [b: [tml][i]this ".toList = some .long := by
    decide +kernel
  have hlabel : shown "see [b: [tml][i]this " = "see this " := by decide +kernel
  obtain ⟨-, hlong, -, -⟩ :=
    value_fillMarkup_append (Language.bare "en" "English")
    (Evaluator.standard default) "see [b: [tml][i]this " hplain hblank
  refine ⟨hlabel, ?_⟩
  rw [← hlabel]
  exact hlong hform

/-- Behind `[tml:` the closing tag of the root is shown, and behind `[/tml]`
nothing is. -/
theorem reserved_marks_escape :
    let shown := fun l =>
      ((undecorated (Language.bare "en" "English")
        (Evaluator.standard default)).fillMarkup l).value
    (∀ c ∈ "Hi".toList, c ≠ '[' ∧ c ≠ ']' ∧ c ≠ ':' ∧ Text.isBlank c = false) ∧
      shown ("[tml:" ++ "Hi") = "Hi[/tml]" ∧
      ¬ "Hi".toList <:+ (shown ("[tml:" ++ "Hi")).toList ∧
      shown ("[/tml]" ++ "Hi") = "" ∧
      ¬ "Hi".toList <:+ (shown ("[/tml]" ++ "Hi")).toList := by
  intro shown
  have hshort : shown ("[tml:" ++ "Hi") = "Hi[/tml]" := by decide +kernel
  have hclosed : shown ("[/tml]" ++ "Hi") = "" := by decide +kernel
  rw [hshort, hclosed]
  exact ⟨by simp [Text.isBlank], rfl, by decide +kernel, rfl, by decide +kernel⟩

end Rendering
end Phrasebook

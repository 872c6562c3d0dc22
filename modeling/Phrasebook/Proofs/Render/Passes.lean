import Phrasebook.Render
import Phrasebook.Proofs.Label.Extraction
import Phrasebook.Proofs.Markup.Content

/-!
# Passes that are left out

Tokens are looked for only in a label with an opening brace, and markup only in
one with an opening bracket. Leaving out a pass in this way changes neither the
text nor the journal: without the brace there is no token of any kind, and
without the bracket nothing opens an element or closes the root, so that the
label is read as texts of the root, closing brackets among them, and the root
shows its content as it is.
-/

namespace Phrasebook

/-! ## No token without a brace -/

theorem Label.claimed_eq_nil {s : List Char} (h : '{' ∉ s)
    (kinds : List TokenKind) :
    claimed kinds s = [] := by
  induction kinds with
  | nil => rfl
  | cons k kinds ih =>
      have hwithout : without s [] = s := rfl
      rw [claimed, found_eq_nil h, hwithout, ih]
      rfl

theorem Label.tokens_eq_nil {label : String} (h : '{' ∉ label.toList) :
    tokens label = [] := by
  rw [tokens, claimed_eq_nil h]
  rfl

theorem Rendering.fillTokens_of_notMem (r : Rendering) {label : String}
    (h : '{' ∉ label.toList) :
    r.fillTokens label = pure label := by
  rw [fillTokens, Label.tokens_eq_nil h]
  rfl

/-! ## No markup without a bracket -/

namespace Markup

/-- A fragment that is text in any element of the long form. -/
def Fragment.IsText (f : Fragment) : Prop :=
  (∀ form name, f ≠ .opening form name) ∧ ∀ name, f ≠ .closingTag name

def Fragment.textNode (f : Fragment) : Node :=
  .text (String.ofList f.chars)

theorem Fragment.isText_of_notMem {s : List Char} (h : '[' ∉ s) :
    ∀ f ∈ Fragment.split s, f.IsText := by
  intro f hf
  have hchars : '[' ∉ f.chars := by
    intro hmem
    refine h ?_
    rw [← (Fragment.flatMap_chars_split s).1]
    exact List.mem_flatMap.mpr ⟨f, hf, hmem⟩
  constructor
  · rintro form name rfl
    cases form with
    | short => exact hchars List.mem_cons_self
    | long => exact hchars List.mem_cons_self
  · rintro name rfl
    exact hchars List.mem_cons_self

/-- Texts are put into the innermost element one after the other. -/
theorem OpenElements.tree_append_of_isText {e : OpenElement}
    {around : List OpenElement}
    (hform : e.form = .long) (hawaits : e.awaitsText = false)
    {fs : List Fragment} (hfs : ∀ f ∈ fs, f.IsText) (rest : List Fragment) :
    tree (e, around) (fs ++ rest) =
      tree (e.extend (fs.map Fragment.textNode), around) rest := by
  induction fs generalizing e with
  | nil => rw [List.nil_append, List.map_nil, OpenElement.extend_nil]
  | cons f fs ih =>
      obtain ⟨⟨hopening, hclosing⟩, hlater⟩ := List.forall_mem_cons.mp hfs
      have hended : e.endedBy f = false := by
        simp [OpenElement.endedBy, hclosing]
      have hclosed : ¬ e.closedBy f = true := by
        rw [closedBy_iff, hform]
        exact hclosing e.name
      have hkeeps : e.Keeps (f.textNode :: fs.map Fragment.textNode) := by
        intro hawaits'
        rw [hawaits] at hawaits'
        exact Bool.noConfusion hawaits'
      have hextend := e.extend_text _ _ hkeeps
      rw [String.toList_ofList] at hextend
      have hlast := ih (e := e.pushText f.chars) hform rfl hlater
      rw [List.cons_append, tree_text hended hclosed hopening, hlast, hextend]
      rfl

theorem tree_read_of_notMem {label : String} (h : '[' ∉ label.toList) :
    (read label).tree =
      .element "tml" ((Fragment.split label.toList).map Fragment.textNode) := by
  have hclosed := (closedBy_closing .long rootName
    ((Fragment.split label.toList).map Fragment.textNode)).2
  rw [tree_read, split_append_rootTag,
    OpenElements.tree_append_of_isText rfl rfl (Fragment.isText_of_notMem h)]
  exact (congrArg Reading.tree (build_last hclosed)).trans
    (OpenElement.toNode_extend_start .long "tml" _)

end Markup

namespace Rendering

open Markup

theorem nodeTexts_textNode (r : Rendering) (label : String)
    (fs : List Fragment) :
    r.nodeTexts label (fs.map Fragment.textNode) =
      pure (String.ofList (fs.flatMap Fragment.chars)) := by
  induction fs with
  | nil => rw [List.map_nil, nodeTexts, List.flatMap_nil, String.ofList_nil]
  | cons f fs ih =>
      rw [List.map_cons, nodeTexts, ih, Fragment.textNode, nodeText, pure_bind,
        pure_bind, List.flatMap_cons, String.ofList_append]

theorem fillMarkup_of_notMem (r : Rendering) {label : String}
    (h : '[' ∉ label.toList) :
    r.fillMarkup label = pure label := by
  rw [fillMarkup, tree_read_of_notMem h, nodeText, nodeTexts_textNode,
    pure_bind, (Fragment.flatMap_chars_split label.toList).1,
    String.ofList_toList, decorate, if_pos (.inl rfl)]

/-- Leaving out a pass never changes a rendering, neither its text nor its
journal. The label is rendered as if its tokens were always filled in and its
markup always applied, unless the options say otherwise, for a label without an
opening brace has no tokens of any kind, and one without an opening bracket is
its own text. -/
theorem render_eq_passes (r : Rendering) (label : String) :
    (r.render label = do
      let filled ← r.fillTokens label
      if r.options.skipDecorations then pure filled else r.fillMarkup filled) ∧
    ('{' ∉ label.toList →
      (∀ k : TokenKind, k.found label.toList = []) ∧ Label.tokens label = []) ∧
    ('[' ∉ label.toList → r.fillMarkup label = pure label) := by
  refine ⟨?_, fun h => ⟨fun k => Label.found_eq_nil h, Label.tokens_eq_nil h⟩,
    r.fillMarkup_of_notMem⟩
  have hfirst : r.render label = (do
      let filled ← r.fillTokens label
      if filled.toList.contains '[' && !r.options.skipDecorations then
        r.fillMarkup filled
      else pure filled) := by
    rw [render]
    split
    · rfl
    · rename_i hbrace
      rw [r.fillTokens_of_notMem (by simpa using hbrace)]
  have hsecond : ∀ filled : String,
      (if filled.toList.contains '[' && !r.options.skipDecorations
        then r.fillMarkup filled
        else pure filled) =
      if r.options.skipDecorations then pure filled
      else r.fillMarkup filled := by
    intro filled
    cases hskip : r.options.skipDecorations with
    | true => simp
    | false =>
        by_cases hbracket : '[' ∈ filled.toList
        · simp [hbracket]
        · simp [hbracket, r.fillMarkup_of_notMem hbracket]
  rw [hfirst]
  simp only [hsecond]

/-- A rendering that puts every element in brackets of its name. -/
def bracketed : Rendering where
  data := Table.empty
  language := Language.bare "en" "English"
  decorator :=
    { Decorator.plain with
      element := fun name content => name ++ "<" ++ content ++ ">" }
  settings := Settings.standard
  options := Options.standard
  evaluator := Evaluator.standard default

/-- A closing bracket and a colon make no markup, and a closing brace makes no
token. -/
theorem render_eq_passes_stray :
    let label := "b: a] \x7d"
    '{' ∉ label.toList ∧ '[' ∉ label.toList ∧ Label.tokens label = [] ∧
      bracketed.fillMarkup label = pure label ∧
      bracketed.render label = pure label := by
  intro label
  have hbrace : '{' ∉ label.toList := by decide
  have hbracket : '[' ∉ label.toList := by decide
  obtain ⟨hpasses, htokens, hmarkup⟩ := render_eq_passes bracketed label
  have hrender : bracketed.render label = pure label := by
    rw [hpasses, bracketed.fillTokens_of_notMem hbrace, pure_bind,
      hmarkup hbracket]
    rfl
  exact ⟨hbrace, hbracket, (htokens hbrace).2, hmarkup hbracket, hrender⟩

end Rendering
end Phrasebook

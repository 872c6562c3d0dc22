import Phrasebook.Proofs.Label.Inert
import Phrasebook.Proofs.Render.Passes

/-!
# Texts without markup

A text in which nothing opens an element or closes the root is its own
rendering. What a label shows once its markup is taken out is such a text, if
two things hold. Each bracket that is text must have text behind it that keeps
it from being a mark whatever follows, as what follows in the label need not
follow in what is shown. And each element must show its content as it is, or
leave it out, with nothing around it that has an opening bracket.
-/

namespace Phrasebook

open Written (Unbraced)

namespace Markup

/-! ## Nothing to read -/

/-- No bracket of the text opens an element or the closing tag of the root. -/
inductive MarkFree : List Char → Prop where
  | nil : MarkFree []
  | cons {c : Char} {s : List Char}
      (hc : c = '[' → (∀ form name, Fragment.bracketed s ≠ .opening form name) ∧
        Fragment.bracketed s ≠ .closingTag rootName)
      (hs : MarkFree s) : MarkFree (c :: s)

variable {s rest : List Char}

theorem markFree_append_of_notMem (hs : '[' ∉ s) (hrest : MarkFree rest) :
    MarkFree (s ++ rest) := by
  induction s with
  | nil => exact hrest
  | cons c s ih =>
      obtain ⟨hc, hs⟩ : '[' ≠ c ∧ '[' ∉ s := by simpa using hs
      exact .cons (fun h => absurd h.symm hc) (ih hs)

theorem markFree_cons {f : Fragment} (hread : Fragment.bracketed s = f)
    (hopening : ∀ form name, f ≠ .opening form name)
    (hroot : f ≠ .closingTag rootName)
    (hs : MarkFree s) : MarkFree ('[' :: s) := by
  subst hread
  exact .cons (fun _ => ⟨hopening, hroot⟩) hs

theorem not_mark_of_mem_splitFrom {skip : Nat} {f : Fragment} (hs : MarkFree s)
    (hf : f ∈ Fragment.splitFrom skip s) :
    (∀ form name, f ≠ .opening form name) ∧ f ≠ .closingTag rootName := by
  induction hs generalizing skip with
  | nil => simp [Fragment.splitFrom] at hf
  | cons hc _ ih =>
      cases skip with
      | succ skip => exact ih hf
      | zero =>
          rcases List.mem_cons.mp hf with rfl | hf
          · unfold Fragment.begin
            split
            · rename_i hbracket
              exact hc hbracket
            · split <;> simp
          · exact ih hf

/-- Content without elements is a list of texts. -/
theorem Content.nodes_of_not_opening {c : Content}
    (h : ∀ f ∈ c.fragments, ∀ form name, f ≠ .opening form name) :
    c.nodes false = c.fragments.map Fragment.textNode := by
  induction c with
  | nil => rfl
  | text f rest ih =>
      obtain ⟨-, hrest⟩ := List.forall_mem_cons.mp h
      rw [nodes, ih hrest]
      rfl
  | element form name inside closed rest _ _ =>
      exact absurd rfl (h _ List.mem_cons_self form name)

end Markup

namespace Rendering

open Markup

theorem value_nodeTexts_cons (r : Rendering) (label : String) (n : Node)
    (ns : List Node) :
    (r.nodeTexts label (n :: ns)).value =
      (r.nodeText label n).value ++ (r.nodeTexts label ns).value :=
  rfl

theorem value_nodeText_element (r : Rendering) (label name : String)
    (children : List Node) :
    (r.nodeText label (.element name children)).value =
      (r.decorate label name (r.nodeTexts label children).value).value :=
  rfl

theorem fillMarkup_of_markFree (r : Rendering) {label : String}
    (h : MarkFree label.toList) : r.fillMarkup label = pure label := by
  have hfs : ∀ f ∈ Fragment.split label.toList,
      (∀ form name, f ≠ .opening form name) ∧ f ≠ .closingTag rootName :=
    fun f hf => not_mark_of_mem_splitFrom h hf
  obtain ⟨c, left, -, hfragments, htree⟩ :=
    exists_content fun f hf =>
      ⟨fun form => (hfs f hf).1 form rootName, (hfs f hf).2⟩
  have hnodes := Content.nodes_of_not_opening (c := c) fun f hf =>
      (hfs f (hfragments ▸ hf)).1
  rw [fillMarkup, htree, hnodes, hfragments, nodeText, nodeTexts_textNode,
    pure_bind, (Fragment.flatMap_chars_split label.toList).1,
    String.ofList_toList, decorate, if_pos (.inl rfl)]

theorem value_fillMarkup_of_markFree (r : Rendering) {label : String}
    (h : MarkFree label.toList) : (r.fillMarkup label).value = label :=
  congrArg Logged.value (r.fillMarkup_of_markFree h)

end Rendering

/-! ## Brackets that are text -/

namespace Markup

/-- Behind a bracket, the text makes the bracket text, whatever follows. -/
def Guards (s : List Char) : Prop :=
  ∀ rest, Fragment.bracketed (s ++ rest) = .plain ['[']

/-- Behind each bracket that is text there is text that makes it so, whatever
follows. -/
def Guarded : List Fragment → Prop
  | [] => True
  | f :: fs =>
    (f = .plain ['['] → ∃ s, fs.head? = some (.plain s) ∧ Guards s) ∧ Guarded fs

variable {fs gs : List Fragment} {s rest : List Char}

theorem Guarded.of_append_right (h : Guarded (fs ++ gs)) : Guarded gs := by
  induction fs with
  | nil => exact h
  | cons f fs ih => exact ih h.2

theorem Guarded.of_append_left (h : Guarded (fs ++ gs))
    (hgs : ∀ s, gs.head? ≠ some (.plain s)) : Guarded fs := by
  induction fs with
  | nil => trivial
  | cons f fs ih =>
      refine ⟨fun hf => ?_, ih h.2⟩
      obtain ⟨s, hhead, hs⟩ := h.1 hf
      cases fs with
      | nil => exact absurd hhead (hgs s)
      | cons g fs => exact ⟨s, hhead, hs⟩

/-! ## What an element shows -/

/-- A text without braces and opening brackets. -/
def Clean (s : List Char) : Prop :=
  Unbraced s ∧ '[' ∉ s

instance (s : List Char) : Decidable (Clean s) :=
  inferInstanceAs (Decidable (_ ∧ _))

/-- The text shown is the content or nothing, with texts around it that have no
opening bracket. -/
def Frames (content shown : List Char) : Prop :=
  ∃ before kept after, shown = before ++ (kept ++ after) ∧ '[' ∉ before ∧
    '[' ∉ after ∧ (kept = content ∨ kept = [])

theorem Frames.markFree_append {content shown : List Char}
    (h : Frames content shown)
    (hcontent : ∀ {rest}, MarkFree rest → MarkFree (content ++ rest))
    (hrest : MarkFree rest) : MarkFree (shown ++ rest) := by
  obtain ⟨before, kept, after, rfl, hbefore, hafter, hkept⟩ := h
  have hbehind : MarkFree (after ++ rest) :=
    markFree_append_of_notMem hafter hrest
  have hinside : MarkFree (kept ++ (after ++ rest)) := by
    rcases hkept with rfl | rfl
    · exact hcontent hbehind
    · exact hbehind
  rw [List.append_assoc, List.append_assoc]
  exact markFree_append_of_notMem hbefore hinside

mutual

/-- Each element of the node shows its content, or leaves it out, with texts
around it that have no opening bracket. -/
def Node.Framed (r : Rendering) (label : String) : Node → Prop
  | .text _ => True
  | .element name children =>
    let content := (r.nodeTexts label children).value
    Frames content.toList (r.decorate label name content).value.toList ∧
      AllFramed r label children

/-- Each element of the nodes shows its content, or leaves it out, with texts
around it that have no opening bracket. -/
def AllFramed (r : Rendering) (label : String) : List Node → Prop
  | [] => True
  | n :: ns => n.Framed r label ∧ AllFramed r label ns

end

theorem frames_self (content : List Char) : Frames content content :=
  ⟨[], content, [], by simp, by decide, by decide, .inl rfl⟩

/-- A template with one placeholder frames the content, if it has no other
braces or brackets. -/
theorem frames_fillContent {template : String} {before after : List Char}
    (htemplate : template.toList = before ++ (Rendering.contentMark ++ after))
    (hbefore : Clean before) (hafter : Clean after) (content : String) :
    Frames content.toList (Rendering.fillContent template content).toList := by
  have hfront : ∀ u, u <:+ before → u ≠ [] →
      ¬ Rendering.contentMark <+: u ++ (Rendering.contentMark ++ after) := by
    intro u hu hne hbegin
    obtain ⟨c, u, rfl⟩ := List.exists_cons_of_ne_nil hne
    obtain rfl : '{' = c := (List.cons_prefix_cons.mp hbegin).1
    exact hbefore.1.1 (hu.subset List.mem_cons_self)
  have hback : ¬ Rendering.contentMark <:+: after :=
    fun h => hafter.1.1 (h.subset List.mem_cons_self)
  refine ⟨before, content.toList, after, ?_, hbefore.2, hafter.2, .inl rfl⟩
  rw [Rendering.fillContent, String.toList_ofList, htemplate,
    Text.replaceChars_append_of_not_isPrefix hfront]
  unfold Rendering.contentMark at hback ⊢
  rw [Text.replaceChars_self_append, Text.replaceChars_of_not_isInfix hback]

theorem Node.framed_root {r : Rendering} {label : String} {ns : List Node}
    (h : AllFramed r label ns) : (Node.element "tml" ns).Framed r label := by
  refine ⟨?_, h⟩
  rw [Rendering.decorate, if_pos (.inl rfl)]
  exact frames_self _

theorem Node.framed_of_template {r : Rendering} {label name template : String}
    {ns : List Node} {before after : List Char} (hname : name.toList ≠ rootName)
    (hallowed : r.options.allows name = true)
    (hdata : r.data.get? name = some (.decoration (.template template)))
    (htemplate : template.toList = before ++ (Rendering.contentMark ++ after))
    (hbefore : Clean before) (hafter : Clean after) (h : AllFramed r label ns) :
    (Node.element name ns).Framed r label := by
  refine ⟨?_, h⟩
  rw [Rendering.decorate, if_neg (by simp [hname, hallowed]), hdata]
  exact frames_fillContent htemplate hbefore hafter _

/-! ## No marks in what is shown -/

namespace Content

variable {r : Rendering} {label : String}

theorem shown_isSuffix (f : Fragment) (awaits : Bool) :
    (shown (f, awaits)).toList <:+ f.chars := by
  unfold shown
  dsimp only
  rw [String.toList_ofList]
  split
  · exact List.dropWhile_suffix _
  · exact List.suffix_rfl

variable {form : ElementForm} {name : List Char} {left : Bool} {c : Content}
    {rest : List Char}

theorem shown_of_bracket {f : Fragment} {s : List Char} (awaits : Bool)
    (hf : f.chars = '[' :: s) : (shown (f, awaits)).toList = '[' :: s := by
  have htrim : Text.trimLeft ('[' :: s) = '[' :: s :=
    Text.trimLeft_cons_of_not_blank (by decide)
  unfold shown
  simp [hf, htrim]

theorem markFree_shown_append {f : Fragment} (awaits : Bool) (hf : f.Formed)
    (hopening : ∀ form name, f ≠ .opening form name)
    (hroot : f ≠ .closingTag rootName)
    (hguarded : f = .plain ['['] → Fragment.bracketed rest = .plain ['['])
    (hrest : MarkFree rest) :
    MarkFree ((shown (f, awaits)).toList ++ rest) := by
  have hnone : '[' ∉ f.chars →
      MarkFree ((shown (f, awaits)).toList ++ rest) := by
    intro hnotmem
    exact markFree_append_of_notMem
      (fun hmem => hnotmem ((shown_isSuffix f awaits).subset hmem)) hrest
  cases hf with
  | opening hname => exact absurd rfl (hopening _ _)
  | @closingTag tag hname =>
      have hread : Fragment.bracketed ('/' :: tag ++ [']'] ++ rest) =
          .closingTag tag := by
        have hslash : Fragment.bracketed ('/' :: (tag ++ ']' :: rest)) =
            .closingTag tag :=
          Fragment.bracketed_slash hname
        simpa using hslash
      have hnotmem : '[' ∉ '/' :: tag ++ [']'] := by
        have hword : '[' ∉ tag := fun hmem => absurd (hname _ hmem) (by decide)
        simp [hword]
      have hshown : (shown (.closingTag tag, awaits)).toList =
          '[' :: ('/' :: tag ++ [']']) :=
        shown_of_bracket awaits rfl
      rw [hshown, List.cons_append]
      exact markFree_cons hread hopening hroot
        (markFree_append_of_notMem hnotmem hrest)
  | closingBracket => exact hnone (by simp [Fragment.chars])
  | bracket =>
      have hshown : (shown (.plain ['['], awaits)).toList = '[' :: [] :=
        shown_of_bracket awaits rfl
      rw [hshown, List.singleton_append]
      exact markFree_cons (hguarded rfl) hopening hroot hrest
  | plain hne hs =>
      apply hnone
      intro hmem
      exact absurd (hs _ hmem) (by decide)

/-- Content shows no mark of its own, and makes none with what stands behind
it. -/
theorem ReadIn.markFree_append (hc : ReadIn form name left c) (awaits : Bool)
    (hframed : AllFramed r label (c.nodes awaits))
    (hformed : ∀ f ∈ c.fragments, f.Formed)
    (hroot : ∀ f ∈ c.fragments, f ≠ .closingTag rootName)
    (hguarded : Guarded c.fragments) (hrest : MarkFree rest) :
    MarkFree ((r.nodeTexts label (c.nodes awaits)).value.toList ++ rest) := by
  induction hc generalizing awaits rest with
  | nil => exact hrest
  | @text form name left f c hopening hclosing hc ih =>
      obtain ⟨hf, hformed⟩ := List.forall_mem_cons.mp hformed
      obtain ⟨hfroot, hroot⟩ := List.forall_mem_cons.mp hroot
      have hothers := ih false hframed.2 hformed hroot hguarded.2 hrest
      rw [nodes, Rendering.value_nodeTexts_cons, String.toList_append,
        List.append_assoc]
      refine markFree_shown_append awaits hf hopening hfroot
        (fun hbracket => ?_) hothers
      obtain ⟨s, hhead, hguards⟩ := hguarded.1 hbracket
      -- The text that guards the bracket is read into the same element right
      -- behind it.
      cases c with
      | nil => simp [fragments] at hhead
      | element form' name' inside closed c => simp [fragments] at hhead
      | text g c =>
          obtain rfl : g = .plain s := by simpa [fragments] using hhead
          have hshown : (shown (.plain s, false)).toList = s :=
            String.toList_ofList
          rw [nodes, Rendering.value_nodeTexts_cons, String.toList_append,
            List.append_assoc]
          exact (congrArg (fun t => Fragment.bracketed (t ++ _)) hshown).trans
            (hguards _)
  | @closed form form' name name' left inside c hinside hc ihinside ih =>
      obtain ⟨⟨hframe, hframedinside⟩, hframed⟩ := hframed
      obtain ⟨-, hformed⟩ := List.forall_mem_cons.mp hformed
      obtain ⟨hformedinside, hformed⟩ := List.forall_mem_append.mp hformed
      obtain ⟨-, hformed⟩ := List.forall_mem_append.mp hformed
      obtain ⟨-, hroot⟩ := List.forall_mem_cons.mp hroot
      obtain ⟨hrootinside, hroot⟩ := List.forall_mem_append.mp hroot
      obtain ⟨-, hroot⟩ := List.forall_mem_append.mp hroot
      have hguardedinside : Guarded inside.fragments := by
        refine hguarded.2.of_append_left ?_
        cases form' <;> simp [Fragment.closing]
      have hothers :=
        ih awaits hframed hformed hroot
          hguarded.2.of_append_right.of_append_right
        hrest
      rw [nodes, Rendering.value_nodeTexts_cons, String.toList_append,
        List.append_assoc]
      exact hframe.markFree_append
        (fun h => ihinside _ hframedinside hformedinside hrootinside
          hguardedinside h) hothers
  | @leftOpen form form' name name' left inside hinside ihinside =>
      obtain ⟨⟨hframe, hframedinside⟩, -⟩ := hframed
      obtain ⟨-, hformed⟩ := List.forall_mem_cons.mp hformed
      obtain ⟨hformedinside, -⟩ := List.forall_mem_append.mp hformed
      obtain ⟨-, hroot⟩ := List.forall_mem_cons.mp hroot
      obtain ⟨hrootinside, -⟩ := List.forall_mem_append.mp hroot
      have hguardedinside : Guarded inside.fragments := by
        refine hguarded.2.of_append_left ?_
        simp [fragments]
      rw [nodes, Rendering.value_nodeTexts_cons, String.toList_append,
        List.append_assoc]
      exact hframe.markFree_append
        (fun h => ihinside _ hframedinside hformedinside hrootinside
          hguardedinside h) hrest

end Content
end Markup

end Phrasebook

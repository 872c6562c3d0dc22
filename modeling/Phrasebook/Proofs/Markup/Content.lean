import Phrasebook.Proofs.Markup.Ending

/-!
# What becomes of each fragment

The fragments of a label are read as a sequence of texts and elements. Each of
them opens an element, closes the innermost element that is open, or is a text
of the tree, and an element that is not closed goes on to the end of the label.
`Content` keeps all this, so that both the fragments and the nodes of the tree
can be read off it. Nothing else happens as long as no fragment is a mark of the
root.
-/

namespace Phrasebook
namespace Markup

/-! ## Names and texts of a tree -/

mutual

/-- The names of the elements of a node, each in front of those inside it. -/
def Node.names : Node → List String
  | .text _ => []
  | .element name children => name :: namesAll children

def namesAll : List Node → List String
  | [] => []
  | n :: ns => n.names ++ namesAll ns

end

mutual

def Node.texts : Node → List String
  | .text s => [s]
  | .element _ children => textsAll children

def textsAll : List Node → List String
  | [] => []
  | n :: ns => n.texts ++ textsAll ns

end

mutual

theorem Node.bare_eq_flatMap_texts :
    (n : Node) → n.bare = n.texts.flatMap String.toList
  | .text s => by simp [Node.bare, Node.texts]
  | .element name children => by
    rw [Node.bare, Node.texts, bareAll_eq_flatMap_textsAll children]

theorem bareAll_eq_flatMap_textsAll :
    (ns : List Node) → bareAll ns = (textsAll ns).flatMap String.toList
  | [] => rfl
  | n :: ns => by
    rw [bareAll, textsAll, n.bare_eq_flatMap_texts,
      bareAll_eq_flatMap_textsAll ns, List.flatMap_append]

end

def Fragment.opening? : Fragment → Option (ElementForm × List Char)
  | .opening form name => some (form, name)
  | _ => none

theorem Fragment.formed_front (form : ElementForm) {name : List Char}
    (hname : ∀ c ∈ name, Unicode.isWord c = true) :
    (Fragment.opening form name).Formed ∧ (Fragment.opening form name).chars =
      form.front name := by
  refine ⟨.opening hname, ?_⟩
  cases form <;> rfl

theorem Fragment.formed_back (form : ElementForm) {name : List Char}
    (hname : ∀ c ∈ name, Unicode.isWord c = true) :
    (Fragment.closing form name).Formed ∧ (Fragment.closing form name).chars =
      form.back name := by
  cases form with
  | short => exact ⟨.closingBracket, rfl⟩
  | long => exact ⟨.closingTag hname, rfl⟩

/-! ## Content -/

/-- What was read inside an element, from left to right: fragments that are
taken for text, and elements with what was read inside them, which a fragment
may have closed or not. -/
inductive Content where
  | nil
  | text (f : Fragment) (rest : Content)
  | element (form : ElementForm) (name : List Char) (inside : Content)
      (closed : Bool)
      (rest : Content)

/-- An element that was read. -/
structure ReadElement where
  form : ElementForm
  name : List Char
  closed : Bool

namespace ReadElement

def opener (e : ReadElement) : Fragment :=
  .opening e.form e.name

def closer (e : ReadElement) : Fragment :=
  .closing e.form e.name

end ReadElement

namespace Content

/-- The fragments from which the content was read. -/
def fragments : Content → List Fragment
  | nil => []
  | text f rest => f :: rest.fragments
  | element form name inside closed rest =>
    .opening form name ::
      (inside.fragments ++
        ((if closed then [.closing form name] else []) ++ rest.fragments))

/-- The elements, each in front of those inside it. -/
def elements : Content → List ReadElement
  | nil => []
  | text _ rest => rest.elements
  | element form name inside closed rest =>
    ⟨form, name, closed⟩ :: (inside.elements ++ rest.elements)

/-- The fragments that are taken for text, with whether blanks in front are
lost: so does the first text directly in a short element. `awaits` says whether
that is still to come. -/
def texts : (awaits : Bool) → Content → List (Fragment × Bool)
  | _, nil => []
  | awaits, text f rest => (f, awaits) :: rest.texts false
  | awaits, element form _ inside _ rest =>
    inside.texts (form = .short) ++ rest.texts awaits

/-- The text that a fragment is in the tree. -/
def shown : Fragment × Bool → String
  | (f, first) =>
    String.ofList (if first then Text.trimLeft f.chars else f.chars)

def nodes : (awaits : Bool) → Content → List Node
  | _, nil => []
  | awaits, text f rest => .text (shown (f, awaits)) :: rest.nodes false
  | awaits, element form name inside _ rest =>
    .element (String.ofList name) (inside.nodes (form = .short)) ::
      rest.nodes awaits

/-- The content can be that of an element of the given form and name: a text
neither opens an element nor closes this one, and nothing is left open in an
element that is closed. `left` says whether an element in the content is left
open; nothing may follow such an element. -/
inductive ReadIn :
    ElementForm → List Char → (left : Bool) → Content → Prop where
  | nil {form : ElementForm} {name : List Char} : ReadIn form name false .nil
  | text {form : ElementForm} {name : List Char} {left : Bool} {f : Fragment}
      {rest : Content}
      (hopening : ∀ form' name', f ≠ .opening form' name')
        (hclosing : f ≠ .closing form name)
      (hrest : ReadIn form name left rest) :
        ReadIn form name left (.text f rest)
  | closed {form form' : ElementForm} {name name' : List Char} {left : Bool}
      {inside rest : Content} (hinside : ReadIn form' name' false inside)
      (hrest : ReadIn form name left rest) :
      ReadIn form name left (.element form' name' inside true rest)
  | leftOpen {form form' : ElementForm} {name name' : List Char} {left : Bool}
      {inside : Content} (hinside : ReadIn form' name' left inside) :
      ReadIn form name true (.element form' name' inside false .nil)

variable {form : ElementForm} {name : List Char} {left : Bool} {c : Content}

/-! ### Views of content -/

theorem namesAll_nodes (awaits : Bool) (c : Content) :
    namesAll (c.nodes awaits) = c.elements.map fun e =>
      String.ofList e.name := by
  induction c generalizing awaits with
  | nil => rfl
  | text f rest ih => exact ih false
  | element form name inside closed rest ihinside ih =>
      simp [nodes, elements, namesAll, Node.names, ihinside, ih]

theorem textsAll_nodes (awaits : Bool) (c : Content) :
    textsAll (c.nodes awaits) = (c.texts awaits).map shown := by
  induction c generalizing awaits with
  | nil => rfl
  | text f rest ih => simp [nodes, texts, textsAll, Node.texts, ih]
  | element form name inside closed rest ihinside ih =>
      simp [nodes, texts, textsAll, Node.texts, ihinside, ih]

theorem texts_sublist_fragments (awaits : Bool) (c : Content) :
    ((c.texts awaits).map Prod.fst).Sublist c.fragments := by
  induction c generalizing awaits with
  | nil => exact List.Sublist.slnil
  | text f rest ih => exact (ih false).cons_cons f
  | element form name inside closed rest ihinside ih =>
      rw [texts, List.map_append, fragments]
      refine List.Sublist.cons _ ((ihinside _).append ?_)
      exact (ih awaits).trans (List.sublist_append_right _ _)

/-- Each fragment opens an element, closes one or is a text. -/
theorem fragments_perm (awaits : Bool) (c : Content) :
    c.fragments.Perm (c.elements.map ReadElement.opener ++
      ((c.elements.filter ReadElement.closed).map ReadElement.closer ++
        (c.texts awaits).map Prod.fst)) := by
  rw [List.perm_iff_count]
  intro f
  induction c generalizing awaits with
  | nil => rfl
  | text g rest ih =>
      have hrest := ih false
      simp only [List.count_append] at hrest
      simp only [fragments, elements, texts, List.map_cons, List.count_append,
        List.count_cons, hrest]
      omega
  | element form name inside closed rest ihinside ih =>
      have hinside := ihinside (form = .short)
      have hrest := ih awaits
      simp only [List.count_append] at hinside hrest
      cases closed with
      | true =>
          simp only [fragments, elements, texts, List.map_cons, List.map_append,
            List.filter_cons, List.filter_append, List.count_append,
            List.count_cons, List.count_nil, hinside, hrest, if_true,
            ReadElement.opener, ReadElement.closer]
          omega
      | false =>
          simp only [fragments, elements, texts, List.map_cons, List.map_append,
            List.filter_cons, List.filter_append, List.count_append,
            List.count_cons, List.count_nil, hinside, hrest, Bool.false_eq_true,
            if_false, ReadElement.opener]
          omega

theorem ReadIn.filterMap_opening? (h : ReadIn form name left c) :
    c.fragments.filterMap Fragment.opening? = c.elements.map fun e =>
      (e.form, e.name) := by
  have hcloser :
      ∀ form name fs,
      (Fragment.closing form name :: fs).filterMap Fragment.opening? =
        fs.filterMap Fragment.opening? := by
    intro form name fs
    cases form <;> rfl
  induction h with
  | nil => rfl
  | @text form name left f rest hopening _ _ ih =>
      have hnone : f.opening? = none := by
        cases f with
        | opening form' name' => exact absurd rfl (hopening form' name')
        | closingTag name' => rfl
        | closingBracket => rfl
        | plain s => rfl
      rw [fragments, List.filterMap_cons_none hnone, ih, elements]
  | closed hinside hrest ihinside ih =>
      simp [fragments, elements, Fragment.opening?, hcloser, ihinside, ih]
  | leftOpen hinside ihinside =>
      simp [fragments, elements, Fragment.opening?, ihinside]

/-! ### Every label has content -/

/-- Inside an element, fragments are read up to one that closes the element, or
to the end. -/
theorem exists_readIn (form : ElementForm) (name : List Char)
    (fs : List Fragment) :
    (∃ c rest, ReadIn form name false c ∧
      fs = c.fragments ++ .closing form name :: rest) ∨
      ∃ c left, ReadIn form name left c ∧ fs = c.fragments := by
  -- By induction on the length, as the content of an element may be anything
  -- shorter.
  induction hlength :
    fs.length using Nat.strong_induction_on generalizing fs form name with
  | _ n ih =>
    subst hlength
    cases fs with
    | nil => exact .inr ⟨.nil, false, .nil, rfl⟩
    | cons f fs =>
        by_cases hclosing : f = .closing form name
        · subst hclosing
          exact .inl ⟨.nil, fs, .nil, rfl⟩
        by_cases hopening : ∃ form' name', f = .opening form' name'
        · obtain ⟨form', name', rfl⟩ := hopening
          rcases ih fs.length (by simp) form' name' fs rfl with
            ⟨inside, after, hinside, rfl⟩ | ⟨inside, left, hinside, rfl⟩
          · rcases ih after.length (by simp; omega) form name after rfl with
              ⟨c, rest, hc, rfl⟩ | ⟨c, left, hc, rfl⟩
            · exact .inl ⟨.element form' name' inside true c, rest,
                .closed hinside hc,
                by simp [fragments]⟩
            · exact .inr ⟨.element form' name' inside true c, left,
                .closed hinside hc,
                by simp [fragments]⟩
          · exact .inr ⟨.element form' name' inside false .nil, true,
              .leftOpen hinside,
              by simp [fragments]⟩
        · have hopening : ∀ form' name', f ≠ .opening form' name' :=
            fun form' name' heq => hopening ⟨form', name', heq⟩
          rcases ih fs.length (by simp) form name fs rfl with
            ⟨c, rest, hc, rfl⟩ | ⟨c, left, hc, rfl⟩
          · exact .inl ⟨.text f c, rest, .text hopening hclosing hc, rfl⟩
          · exact .inr ⟨.text f c, left, .text hopening hclosing hc, rfl⟩

end Content

/-! ## The tree of content -/

namespace OpenElement

theorem extend_pushText (e : OpenElement) (f : Fragment) (rest : Content) :
    (e.pushText f.chars).extend (rest.nodes false) =
      e.extend ((Content.text f rest).nodes e.awaitsText) := by
  simp [extend, pushText, Content.nodes, Content.shown, firstText?]

theorem extend_push (e : OpenElement) (form : ElementForm) (name : List Char)
    (inside : Content) (closed : Bool) (rest : Content) :
    (e.push
      ((start form name).extend (inside.nodes (form = .short))).toNode).extend
        (rest.nodes e.awaitsText) =
      e.extend
        ((Content.element form name inside closed rest).nodes
          e.awaitsText) := by
  simp [extend, push, toNode, start, Content.nodes, firstText?]

end OpenElement

namespace OpenElements

variable {here outer : OpenElement} {around : List OpenElement} {f : Fragment}
  {fs rest : List Fragment} {form : ElementForm} {name : List Char}

theorem tree_opening : tree (here, around) (.opening form name :: fs) =
    tree (.start form name, here :: around) fs := by
  rw [tree, build_opening]
  exact tree_build _ (.start form name, here :: around) fs

theorem tree_closing (hended : here.endedBy f = false)
    (hclosed : here.closedBy f = true) :
    tree (here, outer :: around) (f :: fs) =
      tree (outer.push here.toNode, around) fs := by
  rw [tree, build_closing hended hclosed]
  rfl

theorem tree_text (hended : here.endedBy f = false)
    (hclosed : ¬ here.closedBy f = true)
    (hopening : ∀ form name, f ≠ .opening form name) :
    tree (here, around) (f :: fs) =
      tree (here.pushText f.chars, around) fs := by
  rw [tree_cons, step?, endOuter_of_not_endedBy hended]
  dsimp only
  rw [if_neg hclosed]
  cases f with
  | opening form name => exact absurd rfl (hopening form name)
  | closingTag name => rfl
  | closingBracket => rfl
  | plain s => rfl

theorem tree_of_endedBy (hended : here.endedBy f = true) :
    tree (here, outer :: around) (f :: fs) =
      tree (outer.push here.toNode, around) (f :: fs) := by
  have hends : endOuter f here (outer :: around) =
      endOuter f (outer.push here.toNode) around := by
    rw [endOuter, if_pos hended]
  rw [tree_cons, tree_cons, step?, step?, hends]

/-- A fragment closes an element just if it is the closing mark of its form and
name. -/
theorem closedBy_iff :
    here.closedBy f = true ↔ f = .closing here.form here.name := by
  unfold OpenElement.closedBy
  cases here.form with
  | short => cases f <;> simp [Fragment.closing]
  | long => cases f <;> simp [Fragment.closing]

/-- Content is put into the innermost element. If an element in it is left open,
this holds once the closing tag of the root follows, which ends all that is left
open. -/
theorem tree_append_of_readIn {left : Bool} {c : Content}
    (hc : Content.ReadIn form name left c) (hform : here.form = form)
    (hname : here.name = name) (hfs : ∀ f ∈ c.fragments,
      (∀ form, f ≠ .opening form rootName) ∧ f ≠ .closingTag rootName)
    (hrest : left = true → rest = [.closingTag rootName]) :
    tree (here, around) (c.fragments ++ rest) =
      tree (here.extend (c.nodes here.awaitsText), around) rest := by
  induction hc generalizing here around rest with
  | nil =>
      rw [Content.nodes, OpenElement.extend_nil]
      rfl
  | @text form name left f c hopening hclosing hc ih =>
      obtain ⟨⟨-, hroot⟩, hlater⟩ := List.forall_mem_cons.mp hfs
      have hended : here.endedBy f = false := by
        simp [OpenElement.endedBy, hroot]
      have hclosed : ¬ here.closedBy f = true := by
        rw [closedBy_iff, hform, hname]
        exact hclosing
      have htree : tree (here.pushText f.chars, around) (c.fragments ++ rest) =
          tree ((here.pushText f.chars).extend (c.nodes false), around) rest :=
        ih hform hname hlater hrest
      rw [Content.fragments, List.cons_append,
        tree_text hended hclosed hopening, htree, OpenElement.extend_pushText]
  | @closed form form' name name' left inside c hinside hc ihinside ih =>
      obtain ⟨-, hlater⟩ := List.forall_mem_cons.mp hfs
      obtain ⟨hfsinside, hlater⟩ := List.forall_mem_append.mp hlater
      obtain ⟨-, hlater⟩ := List.forall_mem_append.mp hlater
      let e :=
        (OpenElement.start form' name').extend (inside.nodes (form' = .short))
      obtain ⟨hended, hclosed⟩ :=
        closedBy_closing form' name' (inside.nodes (form' = .short))
      have hinner : tree (.start form' name', here :: around)
          (inside.fragments ++ .closing form' name' :: (c.fragments ++ rest)) =
            tree (e, here :: around)
              (.closing form' name' :: (c.fragments ++ rest)) :=
        ihinside rfl rfl hfsinside fun h => absurd h Bool.false_ne_true
      have hafter : tree (here.push e.toNode, around) (c.fragments ++ rest) =
          tree ((here.push e.toNode).extend (c.nodes here.awaitsText), around)
            rest :=
        ih hform hname hlater hrest
      rw [Content.fragments, if_pos rfl, List.cons_append, tree_opening,
        List.append_assoc, List.append_assoc, List.singleton_append, hinner,
        tree_closing hended hclosed, hafter, OpenElement.extend_push]
  | @leftOpen form form' name name' left inside hinside ihinside =>
      obtain ⟨⟨hroot, -⟩, hlater⟩ := List.forall_mem_cons.mp hfs
      obtain ⟨hfsinside, -⟩ := List.forall_mem_append.mp hlater
      obtain rfl := hrest rfl
      have hname' : name' ≠ rootName := by
        rintro rfl
        exact hroot form' rfl
      let e :=
        (OpenElement.start form' name').extend (inside.nodes (form' = .short))
      have hended : e.endedBy (.closingTag rootName) = true := by
        simp [e, OpenElement.endedBy, OpenElement.extend, OpenElement.start,
          hname']
      have hinner : tree (.start form' name', here :: around)
          (inside.fragments ++ [.closingTag rootName]) =
            tree (e, here :: around) [.closingTag rootName] :=
        ihinside rfl rfl hfsinside fun _ => rfl
      have hnil : (here.push e.toNode).extend
          (Content.nil.nodes here.awaitsText) =
          here.push e.toNode := OpenElement.extend_nil _
      rw [Content.fragments, List.cons_append, tree_opening,
        if_neg Bool.false_ne_true, Content.fragments, List.append_nil,
        List.append_nil, hinner, tree_of_endedBy hended,
        ← OpenElement.extend_push, hnil]

end OpenElements

/-- The tree of a label without marks of the root holds the nodes of its
content. -/
theorem exists_content {label : String}
    (hfs : ∀ f ∈ Fragment.split label.toList,
      (∀ form, f ≠ .opening form rootName) ∧ f ≠ .closingTag rootName) :
    ∃ c left, Content.ReadIn .long rootName left c ∧
      c.fragments = Fragment.split label.toList ∧
      (read label).tree = .element "tml" (c.nodes false) := by
  rcases Content.exists_readIn .long rootName (Fragment.split label.toList) with
    ⟨c, rest, -, hsplit⟩ | ⟨c, left, hc, hsplit⟩
  · refine absurd rfl (hfs (.closingTag rootName) ?_).2
    rw [hsplit]
    exact List.mem_append_right _ List.mem_cons_self
  · refine ⟨c, left, hc, hsplit.symm, ?_⟩
    rw [hsplit] at hfs
    have htree : OpenElements.atStart.tree
        (c.fragments ++ [.closingTag rootName]) =
        OpenElements.tree
          ((OpenElement.start .long rootName).extend (c.nodes false), [])
          [.closingTag rootName] :=
      OpenElements.tree_append_of_readIn hc rfl rfl hfs fun _ => rfl
    have hclosed := (closedBy_closing .long rootName (c.nodes false)).2
    have hbuild :
        (build [] ((OpenElement.start .long rootName).extend (c.nodes false)) []
        [.closing .long rootName]).tree =
          ((OpenElement.start .long rootName).extend (c.nodes false)).toNode :=
      congrArg Reading.tree (build_last hclosed)
    rw [tree_read, split_append_rootTag, hsplit, htree]
    exact hbuild.trans (OpenElement.toNode_extend_start .long "tml" _)

end Markup

namespace Rendering

open Markup

/-- Reading loses and invents no text. The fragments make up the label, and
their spelling tells which of them can open or close an element. If none is a
mark of the root, each of them opens an element of the tree, closes the
innermost one that is open, or is a text of the tree, all in the order of the
tree. With nothing put around the texts, exactly these are shown. -/
theorem fillMarkup_content (language : Grammar) (evaluator : Evaluator)
    (options : Options) {label : String}
    (hroot : ∀ f ∈ Fragment.split label.toList, f ≠ .opening .short rootName ∧
      f ≠ .opening .long rootName ∧ f ≠ .closingTag rootName) :
    let fs := Fragment.split label.toList
    fs.flatMap Fragment.chars = label.toList ∧
    (∀ f ∈ fs, ∀ form name, (∀ c ∈ name, Unicode.isWord c = true) →
      (f.chars = form.front name ↔ f = .opening form name) ∧
      (f.chars = form.back name ↔ f = .closing form name)) ∧
    ∃ (c : Content) (left : Bool), c.ReadIn .long rootName left ∧
    c.fragments = fs ∧
      (read label).tree = .element (String.ofList rootName) (c.nodes false) ∧
      fs.filterMap Fragment.opening? =
        c.elements.map (fun e => (e.form, e.name)) ∧
      namesAll (c.nodes false) =
        c.elements.map (fun e => String.ofList e.name) ∧
      fs.Perm (c.elements.map ReadElement.opener ++
        ((c.elements.filter ReadElement.closed).map ReadElement.closer ++
          (c.texts false).map Prod.fst)) ∧
      ((c.texts false).map Prod.fst).Sublist fs ∧
      textsAll (c.nodes false) = (c.texts false).map Content.shown ∧
      ({ undecorated language evaluator with options := options }.fillMarkup
        label).value =
        String.ofList
          (((c.texts false).map Content.shown).flatMap String.toList) := by
  intro fs
  obtain ⟨hchars, hformed⟩ := Fragment.flatMap_chars_split label.toList
  refine ⟨hchars, fun f hf form name hname => ?_, ?_⟩
  · obtain ⟨hfront, hfrontchars⟩ := Fragment.formed_front form hname
    obtain ⟨hback, hbackchars⟩ := Fragment.formed_back form hname
    refine ⟨⟨fun h => ?_, fun h => h ▸ hfrontchars⟩,
      ⟨fun h => ?_, fun h => h ▸ hbackchars⟩⟩
    · exact (hformed f hf).eq_of_chars_eq hfront (h.trans hfrontchars.symm)
    · exact (hformed f hf).eq_of_chars_eq hback (h.trans hbackchars.symm)
  · have hmarks :
        ∀ f ∈ fs, (∀ form, f ≠ .opening form rootName) ∧
        f ≠ .closingTag rootName := by
      intro f hf
      obtain ⟨hshort, hlong, hclosing⟩ := hroot f hf
      refine ⟨fun form => ?_, hclosing⟩
      cases form with
      | short => exact hshort
      | long => exact hlong
    obtain ⟨c, left, hc, hfragments, htree⟩ := exists_content hmarks
    have hshown :
        ({ undecorated language evaluator with options := options }.fillMarkup
        label).value = String.ofList (read label).tree.bare :=
      value_nodeText_undecorated label _
    have hfs : fs = c.fragments := hfragments.symm
    rw [hfs]
    refine ⟨c, left, hc, rfl, htree, hc.filterMap_opening?,
      Content.namesAll_nodes false c,
      Content.fragments_perm false c, Content.texts_sublist_fragments false c,
      Content.textsAll_nodes false c, ?_⟩
    rw [hshown, htree, Node.bare, bareAll_eq_flatMap_textsAll,
      Content.textsAll_nodes]

/-- A bracket that closes nothing and the tag of an outer element are texts, and
both elements end with the label. -/
theorem fillMarkup_content_unbalanced :
    let label := "a] [b: [i]x[/b] y"
    let fs := Fragment.split label.toList
    (∀ f ∈ fs, f ≠ .opening .short rootName ∧ f ≠ .opening .long rootName ∧
      f ≠ .closingTag rootName) ∧
    ∃ c left, Content.ReadIn .long rootName left c ∧ c.fragments = fs ∧
      c.elements.map (fun e => (e.form, e.name)) =
        [(.short, ['b']), (.long, ['i'])] ∧
      (c.texts false).map Content.shown =
        ["a", "]", " ", "", "x", "[/b]", " y"] ∧
      ((undecorated (Language.bare "en" "English")
        (Evaluator.standard default)).fillMarkup
        label).value = "a] x[/b] y" := by
  intro label fs
  have hroot : ∀ f ∈ fs, f ≠ .opening .short rootName ∧
      f ≠ .opening .long rootName ∧
      f ≠ .closingTag rootName := by decide +kernel
  obtain ⟨-, -, c, left, hc, hfragments, htree, helements, -, -, -, htexts,
    hvalue⟩ :=
    fillMarkup_content (Language.bare "en" "English")
      (Evaluator.standard default) Options.standard hroot
  have hread : (read label).tree.texts =
      ["a", "]", " ", "", "x", "[/b]", " y"] := by
    decide +kernel
  rw [htree, Node.texts, htexts] at hread
  rw [hread] at hvalue
  have hopened :
      fs.filterMap Fragment.opening? = [(.short, ['b']), (.long, ['i'])] := by
    decide +kernel
  exact ⟨hroot, c, left, hc, hfragments, helements.symm.trans hopened, hread,
    hvalue⟩

end Rendering
end Phrasebook

import Phrasebook.Proofs.Markup.MarkFree

/-!
# Rendering twice

Rendering the result once more may find a token or a mark that the first
rendering has put together: where a value is put into the middle of one, or
where an element inside it is taken out. Apart from that, rendering is
idempotent. The result may have tokens that are not filled in, stray braces
and brackets, and texts that were put in, all side by side; as long as none of
these makes a token or a mark with the next, the second rendering finds nothing
to do.
-/

namespace Phrasebook
namespace Rendering

open Label (FoundIn)
open Markup
open Written (Braced ofKind)

variable {r : Rendering} {label : String} {segments pieces : List (List Char)}

/-! ## Token by token -/

/-- The tokens are filled in one after the other along the stretches of a
label, and leave the pieces. When its turn comes, the text of a token is found
only where a stretch is that text; by then, earlier tokens have changed theirs.
Stretches that make up the text of the token together are taken as one. -/
inductive FilledInTurn (r : Rendering) :
    (ts : List Token) → (segments pieces : List (List Char)) → Prop where
  | done {segments : List (List Char)} : FilledInTurn r [] segments segments
  | fill {t : Token} {ts : List Token} {segments next pieces : List (List Char)}
      (hfound : FoundIn t.full.toList segments)
      (hnext : next =
        segments.map fun s => if s = t.full.toList then r.becomes t else s)
      (hlater : FilledInTurn r ts next pieces) :
      FilledInTurn r (t :: ts) segments pieces
  | join {t : Token} {ts : List Token}
      {front parts back pieces : List (List Char)}
      (hparts : parts.flatten = t.full.toList)
      (hjoined : FilledInTurn r (t :: ts) (front ++ t.full.toList :: back)
        pieces) :
      FilledInTurn r (t :: ts) (front ++ parts ++ back) pieces

theorem FilledInTurn.value_substituteAll {ts : List Token}
    (h : r.FilledInTurn ts segments pieces)
    (hne : ∀ t ∈ ts, t.full.toList ≠ []) :
    (r.substituteAll ts (String.ofList segments.flatten)).value =
      String.ofList pieces.flatten := by
  induction h with
  | done => rfl
  | fill hfound hnext _ ih =>
      obtain ⟨ht, hne⟩ := List.forall_mem_cons.mp hne
      rw [substituteAll, Logged.value_bind, substitute_of_foundIn ht hfound,
        ← hnext, ih hne]
  | join hparts _ ih =>
      rw [← ih hne]
      simp [hparts]

/-- The label is cut into stretches along which its tokens are filled in. Each
piece that they leave is a token that is not filled in, in simple braces or a
data token in any form, or a text in which no token is spelled; and no token
that is filled in goes from one piece to the next. -/
structure TokensApart (r : Rendering) (label : String)
    (segments pieces : List (List Char)) : Prop where
  flatten : segments.flatten = label.toList
  filled : r.FilledInTurn (Label.tokens label) segments pieces
  token_or_text : ∀ p ∈ pieces,
    (∃ t ∈ Label.tokens label, t.full.toList = p ∧
      (r.replacement? t "").value = none ∧ (Braced p ∨ t.kind = .data)) ∨
      ∀ k, ∀ w ∈ ofKind k, ¬ w <:+: p
  apart : r.SpelledWithin pieces pieces.flatten

theorem TokensApart.value_fillTokens
    (h : r.TokensApart label segments pieces) :
    (r.fillTokens label).value = String.ofList pieces.flatten := by
  have hlabel : label = String.ofList segments.flatten := by
    rw [h.flatten, String.ofList_toList]
  have hfilled := h.filled.value_substituteAll fun t ht =>
    (Label.opened_of_mem_tokens ht).ne_nil
  rw [← hlabel] at hfilled
  exact hfilled

/-- In a token that stays there is none that is filled in. -/
theorem inert_of_replacement?_eq_none {t : Token}
    (ht : t ∈ Label.tokens label)
    (hform : Braced t.full.toList ∨ t.kind = .data)
    (hnone : (r.replacement? t "").value = none) : r.Inert t.full.toList := by
  obtain ⟨k, part, hkept, rfl⟩ := Label.mem_tokens.mp ht
  have hkind : part ∈ ofKind k :=
    Label.mem_ofKind_of_mem_claimed (Label.mem_of_mem_firstClaims hkept)
  have hfills := r.isSome_value_replacement? k part label ""
  rw [hnone] at hfills
  rw [full_token, String.toList_ofList, TokenKind.kind_token] at hform
  rw [full_token, String.toList_ofList]
  exact inert_of_not_fills hkind hform fun h =>
    Bool.false_ne_true (hfills.mpr h)

theorem TokensApart.inert (h : r.TokensApart label segments pieces) :
    r.Inert (r.fillTokens label).value.toList := by
  rw [h.value_fillTokens, String.toList_ofList]
  refine h.apart.inert fun p hp => ?_
  rcases h.token_or_text p hp with ⟨t, ht, rfl, hnone, hform⟩ | htext
  · exact inert_of_replacement?_eq_none ht hform hnone
  · exact fun k w hw _ => htext k w hw

/-! ## After the markup -/

/-- The markup of a filled label has no marks of the root. Each bracket that is
text is kept from being a mark by the text behind it, each element shows its
content, or leaves it out, with texts around it that have no opening bracket,
and with the marks taken out no token that is filled in goes from one fragment
to a later one. -/
structure MarkupApart (r : Rendering) (filled : String) : Prop where
  root : ∀ f ∈ Fragment.split filled.toList,
    (∀ form, f ≠ .opening form rootName) ∧ f ≠ .closingTag rootName
  guarded : Guarded (Fragment.split filled.toList)
  framed : (read filled).tree.Framed r filled
  apart : r.SpelledWithin ((Fragment.split filled.toList).map Fragment.chars)
    (r.fillMarkup filled).value.toList

theorem MarkupApart.inert {filled : String} (h : r.MarkupApart filled)
    (hinert : r.Inert filled.toList) :
    r.Inert (r.fillMarkup filled).value.toList := by
  refine h.apart.inert fun p hp => hinert.of_isInfix ?_
  have hchars := (Fragment.flatMap_chars_split filled.toList).1
  obtain ⟨front, back, hsplit⟩ := List.append_of_mem hp
  rw [← hchars, List.flatMap_def]
  exact ⟨front.flatten, back.flatten, by simp [hsplit]⟩

theorem MarkupApart.markFree {filled : String} (h : r.MarkupApart filled) :
    MarkFree (r.fillMarkup filled).value.toList := by
  obtain ⟨hroot, hguarded, hframed, -⟩ := h
  obtain ⟨c, left, hc, hfragments, htree⟩ := exists_content hroot
  have hformed := (Fragment.flatMap_chars_split filled.toList).2
  have hshown : (r.fillMarkup filled).value =
      (r.nodeTexts filled (c.nodes false)).value := by
    rw [fillMarkup, htree, value_nodeText_element, decorate, if_pos (.inl rfl)]
    rfl
  rw [htree] at hframed
  rw [← hfragments] at hroot hguarded hformed
  have hfree := hc.markFree_append false hframed.2 hformed
    (fun f hf => (hroot f hf).2) hguarded .nil
  rwa [List.append_nil, ← hshown] at hfree

/-! ## The second rendering -/

/-- What is shown, as if both passes were always made. -/
theorem value_render (r : Rendering) (label : String) :
    (r.render label).value =
      if r.options.skipDecorations then (r.fillTokens label).value
      else (r.fillMarkup (r.fillTokens label).value).value := by
  have hfirst : r.render label = (do
      let filled ← r.fillTokens label
      if filled.toList.contains '[' && !r.options.skipDecorations then
        r.fillMarkup filled
      else pure filled) := by
    rw [render]
    split
    · rfl
    · rename_i hbrace
      rw [r.fillTokens_of_notMem (by simpa using hbrace)]
  rw [hfirst, Logged.value_bind]
  by_cases hskip : r.options.skipDecorations = true
  · simp [hskip]
  · by_cases hbracket : '[' ∈ (r.fillTokens label).value.toList
    · simp [hskip, hbracket]
    · simp [hskip, hbracket, r.fillMarkup_of_notMem hbracket]

/-- A text in which nothing is filled in and nothing is markup is its own
rendering. -/
theorem value_render_of_inert (hinert : r.Inert label.toList)
    (hmarkup : r.options.skipDecorations = true ∨ MarkFree label.toList) :
    (r.render label).value = label := by
  rw [value_render, value_fillTokens_of_inert hinert]
  rcases hmarkup with hskip | hfree
  · rw [if_pos hskip]
  · rw [r.value_fillMarkup_of_markFree hfree, ite_self]

def boldRendering : Rendering where
  data :=
    ⟨[("x", .raw (.value (.str "m"))), ("name", .raw (.value (.str "Ann"))),
    ("b", .decoration (.template "<b>\x7b$0\x7d</b>"))]⟩
  language := Language.bare "en" "English"
  decorator := Decorator.plain
  settings := Settings.standard
  options := Options.standard
  evaluator := Evaluator.standard default

/-- A label with a token inside the braces of another, a token with and without
a percent sign, tokens that are not filled in, and stray braces and brackets. -/
def strayLabel : String :=
  "{na{x}e} {name} %{name} \x7d [b: [ {count|| item}] \x7b {missing} " ++
    "{{other}} \x7b x"

def straySegments : List (List Char) :=
  ["\x7bna".toList, "{x}".toList, "e\x7d".toList, " ".toList, "{name}".toList,
    " %".toList, "{name}".toList, " \x7d [b: [ ".toList,
    "{count|| item}".toList, "] \x7b ".toList, "{missing}".toList, " ".toList,
    "{{other}}".toList, " \x7b x".toList]

def strayPieces : List (List Char) :=
  ["Ann".toList, " ".toList, "Ann".toList, " %".toList, "Ann".toList,
    " \x7d [b: [ ".toList, "{count|| item}".toList, "] \x7b ".toList,
    "{missing}".toList, " ".toList, "{{other}}".toList, " \x7b x".toList]

def strayFilled : String :=
  "Ann Ann %Ann \x7d [b: [ {count|| item}] \x7b {missing} {{other}} \x7b x"

def strayTokens : List Token :=
  [.ofPiped strayLabel "{count|| item}", .ofData strayLabel "{x}",
    .ofData strayLabel "{name}", .ofData strayLabel "%{name}",
    .ofData strayLabel "{missing}", .ofData strayLabel "{{other}}"]

theorem tokens_strayLabel : Label.tokens strayLabel = strayTokens := by
  decide +kernel

/-- With its value in place, `{x}` leaves stretches that together are a token
whose turn comes later. -/
theorem filledInTurn_strayLabel :
    boldRendering.FilledInTurn strayTokens straySegments strayPieces := by
  have hlater : boldRendering.FilledInTurn (strayTokens.drop 2)
      ("{name}".toList :: straySegments.drop 3) strayPieces :=
    .fill (by decide +kernel) rfl <| .fill (by decide +kernel) rfl <|
      .fill (by decide +kernel) rfl <|
        .fill (by decide +kernel) (by decide +kernel) .done
  have hjoined : boldRendering.FilledInTurn (strayTokens.drop 2)
      ([] ++ ["\x7bna".toList, "m".toList, "e\x7d".toList] ++
        straySegments.drop 3) strayPieces :=
    .join (by decide) hlater
  exact .fill (by decide +kernel) rfl <|
    .fill (by decide +kernel) (by decide +kernel) hjoined

theorem tokensApart_strayLabel :
    boldRendering.TokensApart strayLabel straySegments strayPieces where
  flatten := rfl
  filled := tokens_strayLabel ▸ filledInTurn_strayLabel
  token_or_text := by
    have hsplit : ∀ p ∈ strayPieces, ('{' ∉ p ∨ '}' ∉ p) ∨
        p ∈ ["{count|| item}".toList, "{missing}".toList,
          "{{other}}".toList] := by decide +kernel
    have hcount : Braced "{count|| item}".toList :=
      ⟨"count|| item".toList, rfl, by decide, by decide⟩
    intro p hp
    rw [tokens_strayLabel, strayTokens]
    rcases hsplit p hp with htext | htoken
    · exact .inr fun k w hw => Written.not_isInfix_of_mem_ofKind hw htext
    · simp only [List.mem_cons, List.not_mem_nil, or_false] at htoken
      left
      rcases htoken with rfl | rfl | rfl
      · exact ⟨.ofPiped strayLabel "{count|| item}", by simp, rfl,
          by decide +kernel, .inl hcount⟩
      · exact ⟨.ofData strayLabel "{missing}", by simp, rfl,
          by decide +kernel, .inr rfl⟩
      · exact ⟨.ofData strayLabel "{{other}}", by simp, rfl,
          by decide +kernel, .inr rfl⟩
  apart := spelledWithin_of_tights (by decide +kernel)

theorem split_strayFilled : Fragment.split strayFilled.toList =
    [.plain "Ann Ann %Ann \x7d ".toList, .opening .short ['b'],
      .plain " ".toList, .plain ['['], .plain " {count|| item}".toList,
      .closingBracket,
      .plain " \x7b {missing} {{other}} \x7b x".toList] := by
  decide +kernel

theorem fillTokens_strayLabel :
    (boldRendering.fillTokens strayLabel).value = strayFilled := by
  decide +kernel

theorem markupApart_strayFilled : boldRendering.MarkupApart strayFilled where
  root := by
    rw [split_strayFilled]
    simp [rootName]
  guarded := by
    rw [split_strayFilled]
    have hguards : Guards " {count|| item}".toList := fun _ => rfl
    exact ⟨by simp, by simp, by simp, fun _ => ⟨_, rfl, hguards⟩, by simp,
      by simp, by simp, trivial⟩
  framed := by
    have htree : (read strayFilled).tree =
        .element "tml" [.text "Ann Ann %Ann \x7d ",
          .element "b" [.text "", .text "[", .text " {count|| item}"],
          .text " \x7b {missing} {{other}} \x7b x"] := by
      rfl
    have htemplate : "<b>\x7b$0\x7d</b>".toList =
        "<b>".toList ++ (contentMark ++ "</b>".toList) := by decide
    have hbold : (Node.element "b"
        [.text "", .text "[", .text " {count|| item}"]).Framed
        boldRendering strayFilled :=
      Node.framed_of_template (by decide) rfl rfl htemplate (by decide)
        (by decide) ⟨trivial, trivial, trivial, trivial⟩
    rw [htree]
    exact Node.framed_root ⟨trivial, hbold, trivial, trivial⟩
  apart := by
    rw [split_strayFilled]
    exact spelledWithin_of_tights (by decide +kernel)

end Rendering
end Phrasebook

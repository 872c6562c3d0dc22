import Phrasebook.Markup.Render
import Phrasebook.Proofs.Label.Reading
import Phrasebook.Proofs.Label.Stretches
import Phrasebook.Proofs.Table.Entries
import Phrasebook.Proofs.Text.Template

/-!
# Filling default decorations

The template of a default decoration has a placeholder for the content and one
for each attribute. They are filled one after the other by searches through the
whole text, and what is left of them is taken out at the end. A later search
also goes through the values that earlier ones have put in, so a value that
holds a placeholder does not stay as it is.

As long as no placeholder comes about in this way, neither in a value nor where
a value meets the text beside it, the result is the same as if all placeholders
were replaced at once. Such a placeholder would still be there with all values
put in, so it is enough to look for it at the end.
-/

namespace Phrasebook
namespace Rendering

open Text (TemplatePart)
open Text.TemplatePart (written Clear)
open Written (Braced)

/-! ## Placeholders -/

variable {name key : String} {s rest : List Char}

/-- A placeholder begins here, whatever its name. -/
def BeginsPlaceholder (s : List Char) : Prop :=
  (placeholderLength s).isSome = true

theorem attributeMark_append (name : String) (rest : List Char) :
    attributeMark name ++ rest =
      '{' :: '$' :: (name.toList ++ '}' :: rest) := by
  simp [attributeMark]

theorem beginsPlaceholder_of_isPrefix (h : attributeMark name <+: s) :
    BeginsPlaceholder s := by
  obtain ⟨rest, rfl⟩ := h
  rw [BeginsPlaceholder, attributeMark_append]
  simp [placeholderLength]

theorem head?_of_beginsPlaceholder (h : BeginsPlaceholder s) :
    s.head? = some '{' := by
  unfold BeginsPlaceholder placeholderLength at h
  split at h
  · rfl
  · exact absurd h (by simp)

theorem placeholderLength_attributeMark (hname : IsWord name.toList)
    (rest : List Char) :
    placeholderLength (attributeMark name ++ rest) =
      some (attributeMark name).length := by
  have hbrace : ∀ c ∈ name.toList, (c != '}') = true := by
    intro c hc
    have hne : c ≠ '}' := by
      rintro rfl
      exact hname.notMem (by decide) hc
    simpa using hne
  have htake : (name.toList ++ '}' :: rest).takeWhile (· != '}') =
      name.toList :=
    Text.takeWhile_append_of_stops hbrace (Text.stops_cons.mpr (by decide))
  rw [attributeMark_append]
  simp [placeholderLength, htake, attributeMark]

theorem braced_attributeMark (hname : IsWord name.toList) :
    Braced (attributeMark name) := by
  have hopen : '{' ∉ name.toList := hname.notMem (by decide)
  have hclose : '}' ∉ name.toList := hname.notMem (by decide)
  exact ⟨'$' :: name.toList, rfl, by simp [hopen], by simp [hclose]⟩

theorem attributeMark_injective (h : attributeMark name = attributeMark key) :
    name = key := by
  simpa [attributeMark, String.toList_inj] using h

/-! ## Putting values in -/

/-- A part of a template with values put in: a placeholder with a value becomes
a text. -/
def putIn (values : List (String × String)) :
    TemplatePart String → TemplatePart String
  | .text s => .text s
  | .mark name =>
    match Table.find? name values with
    | some value => .text value.toList
    | none => .mark name

/-- What takes the place of a placeholder in the end: its value, or nothing if
it has none. -/
def valueChars (values : List (String × String)) (name : String) : List Char :=
  ((Table.find? name values).getD "").toList

variable {ps : List (TemplatePart String)}
    {values done todo : List (String × String)}

theorem putIn_nil (ps : List (TemplatePart String)) :
    ps.map (putIn []) = ps := by
  conv_rhs => rw [← List.map_id ps]
  refine List.map_congr_left ?_
  intro p _
  cases p <;> rfl

theorem putIn_putIn (done todo : List (String × String))
    (ps : List (TemplatePart String)) :
    (ps.map (putIn done)).map (putIn todo) = ps.map (putIn (done ++ todo)) := by
  rw [List.map_map]
  refine List.map_congr_left ?_
  intro p _
  cases p with
  | text s => rfl
  | mark name =>
      cases hvalue : Table.find? name done with
      | some value => simp [putIn, hvalue, Table.find?_append]
      | none => simp [putIn, hvalue, Table.find?_append]

theorem putIn_congr (h : ∀ name, Table.find? name done = Table.find? name todo)
    (ps : List (TemplatePart String)) :
    ps.map (putIn done) = ps.map (putIn todo) := by
  refine List.map_congr_left ?_
  intro p _
  cases p with
  | text s => rfl
  | mark name => rw [putIn, putIn, h]

theorem mark_mem_of_mem_putIn (h : .mark name ∈ ps.map (putIn values)) :
    .mark name ∈ ps := by
  obtain ⟨p, hp, heq⟩ := List.mem_map.mp h
  cases p with
  | text s => exact absurd heq (by simp [putIn])
  | mark name' =>
      rw [putIn] at heq
      split at heq
      · exact absurd heq (by simp)
      · exact heq ▸ hp

theorem written_putIn (values : List (String × String))
    (ps : List (TemplatePart String)) :
    written (fun _ => []) (ps.map (putIn values)) =
      written (valueChars values) ps := by
  induction ps with
  | nil => rfl
  | cons p ps ih =>
      rw [List.map_cons, TemplatePart.written_cons, TemplatePart.written_cons,
        ih]
      cases p with
      | text s => rfl
      | mark name =>
          rw [putIn, TemplatePart.chars, valueChars]
          cases Table.find? name values <;> rfl

/-! ## One search -/

/-- A search for a placeholder replaces it and nothing else if it begins in no
text. -/
theorem replaceChars_written (hkey : IsWord key.toList) (value : String)
    (hnames : ∀ name, .mark name ∈ ps → IsWord name.toList)
    (hclear : Clear (attributeMark key <+: ·) attributeMark ps) :
    Text.replaceChars (written attributeMark ps)
      (attributeMark key) value.toList =
      written attributeMark (ps.map (putIn [(key, value)])) := by
  induction ps with
  | nil => rfl
  | cons p ps ih =>
      have hlater :=
        ih fun name hname => hnames name (List.mem_cons_of_mem p hname)
      rw [TemplatePart.written_cons, List.map_cons, TemplatePart.written_cons]
      cases p with
      | text s =>
          rw [TemplatePart.chars,
            Text.replaceChars_append_of_not_isPrefix hclear.1, hlater hclear.2]
          rfl
      | mark name =>
          by_cases heq : key = name
          · subst heq
            have hself : Text.replaceChars
                (attributeMark key ++ written attributeMark ps)
                (attributeMark key) value.toList =
                value.toList ++ Text.replaceChars (written attributeMark ps)
                  (attributeMark key) value.toList :=
              Text.replaceChars_self_append
            rw [TemplatePart.chars, hself, hlater hclear]
            simp [putIn, Table.find?, TemplatePart.chars]
          · have hother :
                Label.ClearOf (attributeMark key) (attributeMark name) :=
              Label.clearOf_of_braced
                (braced_attributeMark (hnames name List.mem_cons_self))
                (braced_attributeMark hkey) fun h =>
                  heq (attributeMark_injective h).symm
            rw [TemplatePart.chars, Text.replaceChars_append_of_not_isPrefix,
              hlater hclear]
            · simp [putIn, Table.find?, heq, TemplatePart.chars]
            · intro u hu hne
              exact Label.not_isPrefix_append_of_not_comparable
                (hother u hu hne)

/-! ## One search after another -/

/-- What stands in a text and goes on behind it is still there with more values
put in, if it has no opening brace, with which a placeholder would begin. -/
theorem isPrefix_written_putIn {w u : List Char} (hw : '{' ∉ w)
    (h : w <+: u ++ written attributeMark (ps.map (putIn done))) :
    w <+: u ++ written attributeMark (ps.map (putIn (done ++ todo))) := by
  induction ps generalizing u with
  | nil => exact h
  | cons p ps ih =>
      rw [List.map_cons, TemplatePart.written_cons, ← List.append_assoc] at h ⊢
      cases p with
      | text s => exact ih h
      | mark name =>
          cases hvalue : Table.find? name done with
          | some value =>
              rw [putIn, hvalue] at h
              rw [putIn, Table.find?_append, hvalue]
              exact ih h
          | none =>
              rw [putIn, hvalue, TemplatePart.chars, List.append_assoc,
                attributeMark_append] at h
              have hfront : w <+: u := by
                rcases List.prefix_or_prefix_of_prefix h
                  (List.prefix_append u _) with h' | h'
                · exact h'
                · obtain ⟨v, rfl⟩ := h'
                  have hv : v <+: '{' :: _ :=
                    (List.prefix_append_right_inj u).mp h
                  cases v with
                  | nil => simp
                  | cons c v =>
                      obtain ⟨rfl, -⟩ := List.cons_prefix_cons.mp hv
                      exact absurd (by simp) hw
              rw [List.append_assoc]
              exact hfront.trans (List.prefix_append u _)

theorem not_isPrefix_putIn (hkey : IsWord key.toList) {u : List Char}
    (hne : u ≠ []) (h : ¬ BeginsPlaceholder
      (u ++ written attributeMark (ps.map (putIn (done ++ todo))))) :
    ¬ attributeMark key <+: u ++ written attributeMark
      (ps.map (putIn done)) := by
  intro hbegin
  refine h (@beginsPlaceholder_of_isPrefix key _ ?_)
  obtain ⟨c, u, rfl⟩ := List.exists_cons_of_ne_nil hne
  obtain ⟨hc, hbehind⟩ := List.cons_prefix_cons.mp hbegin
  refine List.cons_prefix_cons.mpr ⟨hc, isPrefix_written_putIn ?_ hbehind⟩
  have hbrace : '{' ∉ key.toList := hkey.notMem (by decide)
  simp [hbrace]

/-- If no placeholder has come about in the end, none has on the way there. -/
theorem clear_putIn (hkey : IsWord key.toList)
    (h : Clear BeginsPlaceholder attributeMark
      (ps.map (putIn (done ++ todo)))) :
    Clear (attributeMark key <+: ·) attributeMark (ps.map (putIn done)) := by
  induction ps with
  | nil => trivial
  | cons p ps ih =>
      rw [List.map_cons] at h ⊢
      cases p with
      | text s =>
          exact ⟨fun u hu hne => not_isPrefix_putIn hkey hne (h.1 u hu hne),
            ih h.2⟩
      | mark name =>
          rw [putIn, Table.find?_append] at h
          rw [putIn]
          cases hvalue : Table.find? name done with
          | some value =>
              rw [hvalue] at h
              exact ⟨fun u hu hne => not_isPrefix_putIn hkey hne (h.1 u hu hne),
                ih h.2⟩
          | none =>
              rw [hvalue, Option.none_or] at h
              refine ih ?_
              split at h
              · exact h.2
              · exact h

/-- The searches for several placeholders put in one value after the other. -/
theorem fillAttributes_written
    (hnames : ∀ name, .mark name ∈ ps → IsWord name.toList)
    (hkeys : ∀ e ∈ todo, IsWord e.1.toList)
    (hclear : Clear BeginsPlaceholder attributeMark
      (ps.map (putIn (done ++ todo)))) :
    fillAttributes (written attributeMark (ps.map (putIn done))) todo =
      written attributeMark (ps.map (putIn (done ++ todo))) := by
  induction todo generalizing done with
  | nil => rw [List.append_nil]; rfl
  | cons e todo ih =>
      obtain ⟨key, value⟩ := e
      obtain ⟨hkey, hlater⟩ := List.forall_mem_cons.mp hkeys
      have hstep : Text.replaceChars
          (written attributeMark (ps.map (putIn done)))
          (attributeMark key) value.toList =
            written attributeMark
              (ps.map (putIn (done ++ [(key, value)]))) := by
        rw [replaceChars_written hkey value (fun name hname => ?_)
          (clear_putIn hkey hclear),
          putIn_putIn]
        exact hnames name (mark_mem_of_mem_putIn hname)
      have hcons : done ++ (key, value) :: todo =
          (done ++ [(key, value)]) ++ todo := by simp
      have hfold : fillAttributes (written attributeMark (ps.map (putIn done)))
          ((key, value) :: todo) =
            fillAttributes
              (written attributeMark (ps.map (putIn (done ++ [(key, value)]))))
                todo :=
        congrArg (fillAttributes · todo) hstep
      rw [hcons] at hclear ⊢
      rw [hfold, ih hlater hclear]

/-! ## Taking out what is left -/

theorem dropPlaceholders_length_append (s rest : List Char) :
    dropPlaceholders s.length (s ++ rest) = dropPlaceholders 0 rest := by
  induction s with
  | nil => rfl
  | cons c s ih => exact ih

theorem dropPlaceholders_text_append
    (h : ∀ u, u <:+ s → u ≠ [] → ¬ BeginsPlaceholder (u ++ rest)) :
    dropPlaceholders 0 (s ++ rest) = s ++ dropPlaceholders 0 rest := by
  induction s with
  | nil => rfl
  | cons c s ih =>
      have hhere : placeholderLength (c :: (s ++ rest)) = none := by
        simpa [BeginsPlaceholder] using h (c :: s) List.suffix_rfl (by simp)
      have hlater :=
        ih fun u hu hne => h u (hu.trans (List.suffix_cons c s)) hne
      rw [List.cons_append, dropPlaceholders, hhere, hlater, List.cons_append]

theorem dropPlaceholders_mark_append (hname : IsWord name.toList) :
    dropPlaceholders 0 (attributeMark name ++ rest) =
      dropPlaceholders 0 rest := by
  have hlength := placeholderLength_attributeMark hname rest
  obtain ⟨c, s, hmark⟩ : ∃ c s, attributeMark name = c :: s := ⟨_, _, rfl⟩
  rw [hmark, List.cons_append] at hlength ⊢
  rw [dropPlaceholders, hlength]
  exact dropPlaceholders_length_append s rest

theorem dropPlaceholders_written
    (hnames : ∀ name, .mark name ∈ ps → IsWord name.toList)
    (hclear : Clear BeginsPlaceholder attributeMark ps) :
    dropPlaceholders 0 (written attributeMark ps) =
      written (fun _ => []) ps := by
  induction ps with
  | nil => rfl
  | cons p ps ih =>
      have hlater :=
        ih fun name hname => hnames name (List.mem_cons_of_mem p hname)
      rw [TemplatePart.written_cons, TemplatePart.written_cons]
      cases p with
      | text s =>
          rw [TemplatePart.chars, dropPlaceholders_text_append hclear.1,
            hlater hclear.2]
          rfl
      | mark name =>
          rw [TemplatePart.chars,
            dropPlaceholders_mark_append (hnames name List.mem_cons_self),
            hlater hclear]
          rfl

/-! ## The filled template -/

/-- What a default decoration is filled with: the content under the number zero,
and the attributes under their names. -/
def decorationValues (content : String) (attributes : Table String) :
    List (String × String) :=
  ("0", content) :: attributes.entries

/-- Filling a default decoration puts the content and the attributes into their
places and takes out the placeholders that have no value, all at once, whatever
the order of the attributes. The condition is that no placeholder comes about:
with the values put in, one begins only where the template has one that is
left. -/
theorem fillDefault_written
    (hnames : ∀ name, .mark name ∈ ps → IsWord name.toList)
    (content : String) {attributes : Table String}
    (hkeys : ∀ key ∈ attributes.names, IsWord key.toList)
    (hdistinct : ("0" :: attributes.names).Nodup)
    (hclear : Clear BeginsPlaceholder attributeMark
      (ps.map (putIn (decorationValues content attributes)))) :
    fillDefault (String.ofList (written attributeMark ps)) content attributes =
      String.ofList
        (written (valueChars (decorationValues content attributes)) ps) := by
  -- The content is filled in like an attribute with the name zero, in front of
  -- the others.
  have hperm : (decorationValues content attributes).Perm
      (("0", content) :: attributes.sorted) :=
    List.Perm.cons _ (List.mergeSort_perm _ _).symm
  have hnodup : ((decorationValues content attributes).map Prod.fst).Nodup :=
    hdistinct
  have hvalues := putIn_congr (Table.find?_perm hnodup hperm) ps
  have hmark : contentMark = attributeMark "0" := by decide
  have hfirst : ∀ s : List Char,
      fillAttributes
        (Text.replaceChars s contentMark content.toList) attributes.sorted =
        fillAttributes s (("0", content) :: attributes.sorted) := by
    intro s
    rw [hmark]
    rfl
  have hwords : ∀ e ∈ ("0", content) :: attributes.sorted,
      IsWord e.1.toList := by
    refine List.forall_mem_cons.mpr
      ⟨by simp [IsWord, Unicode.isWord, Unicode.isAsciiWord], ?_⟩
    intro e he
    exact hkeys e.1 (List.mem_map_of_mem ((List.mergeSort_perm _ _).subset he))
  have hfilled : fillAttributes (written attributeMark (ps.map (putIn [])))
      (("0", content) :: attributes.sorted) =
        written attributeMark
          (ps.map (putIn ([] ++ ("0", content) :: attributes.sorted))) :=
    fillAttributes_written hnames hwords (hvalues ▸ hclear)
  rw [putIn_nil, List.nil_append, ← hvalues] at hfilled
  rw [fillDefault, String.toList_ofList, hfirst, hfilled,
    dropPlaceholders_written ?_ hclear, written_putIn]
  exact fun name hname => hnames name (mark_mem_of_mem_putIn hname)

/-- Without opening braces outside of the placeholders of the template none
comes about. -/
theorem clear_putIn_of_notMem (htexts : ∀ s, .text s ∈ ps → '{' ∉ s)
    (hvalues : ∀ e ∈ values, '{' ∉ e.2.toList) :
    Clear BeginsPlaceholder attributeMark (ps.map (putIn values)) := by
  refine TemplatePart.clear_of_notMem (fun _ => head?_of_beginsPlaceholder) ?_
  intro s hs
  obtain ⟨p, hp, heq⟩ := List.mem_map.mp hs
  cases p with
  | text t =>
      obtain rfl : t = s := by simpa [putIn] using heq
      exact htexts t hp
  | mark name =>
      rw [putIn] at heq
      split at heq
      · rename_i value hvalue
        obtain rfl : value.toList = s := by simpa using heq
        exact hvalues (name, value) (Table.mem_of_find? hvalue)
      · exact absurd heq (by simp)

/-! ## Links -/

def linkTemplate : List (TemplatePart String) :=
  [.text "<a href='".toList, .mark "href", .text "' class='".toList,
    .mark "class",
    .text "'>".toList, .mark "0", .text "</a>".toList]

theorem isWord_of_mark_mem_linkTemplate {name : String}
    (h : .mark name ∈ linkTemplate) :
    IsWord name.toList := by
  have hcases : name = "href" ∨ name = "class" ∨ name = "0" := by
    simpa [linkTemplate] using h
  rcases hcases with rfl | rfl | rfl <;>
    simp [IsWord, Unicode.isWord, Unicode.isAsciiWord]

/-- The attributes need not come in the order of the placeholders, and a dollar
sign or a closing brace in a value does no harm. -/
theorem fillDefault_link :
    let attributes : Table String := ⟨[("title", "$"), ("href", "/home\x7d")]⟩
    String.ofList (written attributeMark linkTemplate) =
      "<a href='{$href}' class='{$class}'>{$0}</a>" ∧
    (∀ key ∈ attributes.names, IsWord key.toList) ∧
    ("0" :: attributes.names).Nodup ∧
    Clear BeginsPlaceholder attributeMark
      (linkTemplate.map (putIn (decorationValues "$0\x7d" attributes))) ∧
    fillDefault (String.ofList (written attributeMark linkTemplate)) "$0\x7d"
      attributes =
      "<a href='/home\x7d' class=''>$0\x7d</a>" := by
  intro attributes
  have hkeys : ∀ key ∈ attributes.names, IsWord key.toList := by
    simp [attributes, Table.names, IsWord, Unicode.isWord, Unicode.isAsciiWord]
  have hdistinct : ("0" :: attributes.names).Nodup := by
    simp [attributes, Table.names]
  have hclear : Clear BeginsPlaceholder attributeMark
      (linkTemplate.map (putIn (decorationValues "$0\x7d" attributes))) := by
    refine clear_putIn_of_notMem ?_ ?_
    · simp [linkTemplate]
    · simp [attributes, decorationValues]
  refine ⟨by decide, hkeys, hdistinct, hclear, ?_⟩
  rw [fillDefault_written
    (fun _ => isWord_of_mark_mem_linkTemplate) "$0\x7d" hkeys hdistinct hclear]
  decide

def linked : Rendering where
  data := ⟨[("link", .decoration (.attributes ⟨[("href", "/home")]⟩))]⟩
  language := Language.bare "en" "English"
  decorator := Decorator.plain
  settings := { Settings.standard with
    decorationDefaults :=
      ⟨[("link", String.ofList (written attributeMark linkTemplate))]⟩ }
  options := Options.standard
  evaluator := Evaluator.standard default

/-- Placeholders in the content do not stay as they are: one with the name of an
attribute is filled in, and any other is taken out. -/
theorem fillDefault_refills :
    let attributes : Table String := ⟨[("href", "/home")]⟩
    let content := "{$href} for {$5}"
    (∀ name, .mark name ∈ linkTemplate → IsWord name.toList) ∧
    (∀ s, .text s ∈ linkTemplate → ¬ ['{', '$'] <:+: s) ∧
    (∀ key ∈ attributes.names, IsWord key.toList) ∧
    ("0" :: attributes.names).Nodup ∧
    String.ofList
      (written (valueChars (decorationValues content attributes))
        linkTemplate) =
      "<a href='/home' class=''>{$href} for {$5}</a>" ∧
    fillDefault (String.ofList (written attributeMark linkTemplate)) content
      attributes =
      "<a href='/home' class=''>/home for </a>" ∧
    (linked.fillMarkup ("[link]" ++ content ++ "[/link]")).value =
      "<a href='/home' class=''>/home for </a>" := by
  intro attributes content
  refine ⟨fun _ => isWord_of_mark_mem_linkTemplate, ?_, ?_, ?_, ?_, ?_, ?_⟩
  · intro s hs
    have hnone : '{' ∉ s := by
      revert s
      simp [linkTemplate]
    exact fun hpart => hnone (hpart.subset List.mem_cons_self)
  · simp [attributes, Table.names, IsWord, Unicode.isWord, Unicode.isAsciiWord]
  · simp [attributes, Table.names]
  · decide
  · decide +kernel
  · decide +kernel

end Rendering
end Phrasebook

import Phrasebook.Proofs.Label.Pieces
import Phrasebook.Proofs.Text.Splitting

/-!
# Reading a token back

A declaration is written as a name with context keys behind single colons and
case keys behind double ones, and a piped token as a declaration with a
separator and parameters behind it. What is so written is read back part by
part: no part has the mark in it that sets it off from the next.
-/

namespace Phrasebook

/-! ## Words -/

/-- A run of word characters, of which there is one at least. -/
def IsWord (w : List Char) : Prop :=
  w ≠ [] ∧ ∀ c ∈ w, Unicode.isWord c = true

namespace IsWord

variable {w : List Char}

theorem notMem (h : IsWord w) {c : Char} (hc : Unicode.isWord c = false) :
    c ∉ w := by
  intro hmem
  rw [h.2 c hmem] at hc
  exact Bool.noConfusion hc

theorem trimBoth_eq (h : IsWord w) : Text.trimBoth w = w := by
  have hblank : ∀ c ∈ w, Text.isBlank c = false := fun c hc =>
    Label.isBlank_eq_false_of_isWord (h.2 c hc)
  have hreverse : ∀ c ∈ w.reverse, Text.isBlank c = false := by
    simpa using hblank
  exact Text.trimBoth_eq_self (Text.stops_of_forall hblank)
    (Text.stops_of_forall hreverse)

/-- A word that does not begin with a low line can begin a token. -/
theorem exists_start (h : IsWord w) (hlow : w.head? ≠ some '_') {stop : Char}
    (hstop : Unicode.isWord stop = false) :
    ∃ first name, w = first :: name ∧
      (first ≠ '_' ∧ first ≠ ':' ∧ first ≠ stop) ∧
      ∀ c ∈ name, Unicode.isWord c = true := by
  obtain ⟨first, name, rfl⟩ := List.exists_cons_of_ne_nil h.1
  have hne : ∀ {c}, Unicode.isWord c = false → first ≠ c := by
    rintro c hc rfl
    exact h.notMem hc List.mem_cons_self
  have hlowLine : first ≠ '_' := by simpa using hlow
  exact ⟨first, name, rfl, ⟨hlowLine, hne (by decide), hne hstop⟩,
    (List.forall_mem_cons.mp h.2).2⟩

end IsWord

/-! ## Declarations -/

/-- A name with its keys, all of them words. -/
structure Declaration where
  short : List Char
  contexts : List (List Char)
  cases : List (List Char)
  isWord_short : IsWord short
  isWord_contexts : ∀ k ∈ contexts, IsWord k
  isWord_cases : ∀ k ∈ cases, IsWord k

def keyChars (mark : List Char) (ks : List (List Char)) : List Char :=
  ks.flatMap (mark ++ ·)

/-! ## Keys -/

section Keys

variable {short : List Char} {ks cs : List (List Char)}

/-- A single colon with a word behind it is no double colon. -/
theorem splitChars_keyChars_append (hks : ∀ k ∈ ks, IsWord k)
    (rest : List Char) :
    Text.splitChars [':', ':'] (keyChars [':'] ks ++ rest) =
      (Text.splitChars [':', ':'] rest).modifyHead
        (keyChars [':'] ks ++ ·) := by
  induction ks with
  | nil =>
      rw [keyChars, List.flatMap_nil, List.nil_append]
      cases Text.splitChars [':', ':'] rest <;> rfl
  | cons k ks ih =>
      obtain ⟨hk, hks⟩ := List.forall_mem_cons.mp hks
      have hcolon : ':' ∉ k := hk.notMem (by decide)
      have hprefix :
          ¬ [':', ':'] <+: ':' :: (k ++ (keyChars [':'] ks ++ rest)) := by
        obtain ⟨c, k, rfl⟩ := List.exists_cons_of_ne_nil hk.1
        obtain ⟨hne, -⟩ : ':' ≠ c ∧ ':' ∉ k := by simpa using hcolon
        simp [List.cons_prefix_cons, hne]
      have hchars : keyChars [':'] (k :: ks) ++ rest =
          ':' :: (k ++ (keyChars [':'] ks ++ rest)) := by
        simp [keyChars]
      rw [hchars, Text.splitChars_cons_of_not_isPrefix hprefix,
        Text.splitChars_append_of_notMem hcolon, ih hks]
      cases Text.splitChars [':', ':'] rest <;> simp [keyChars]

theorem splitChars_double (hshort : ':' ∉ short) (hks : ∀ k ∈ ks, IsWord k)
    (hcs : ∀ k ∈ cs, IsWord k) :
    Text.splitChars [':', ':']
      (short ++ (keyChars [':'] ks ++ keyChars [':', ':'] cs)) =
      (short ++ keyChars [':'] ks) :: cs := by
  have hcolon : ∀ k ∈ cs, ':' ∉ k := fun k hk => (hcs k hk).notMem (by decide)
  rw [Text.splitChars_append_of_notMem hshort, splitChars_keyChars_append hks,
    keyChars, keyChars, Text.splitChars_flatMap hcolon]
  simp

theorem splitChars_single (hshort : ':' ∉ short) (hks : ∀ k ∈ ks, IsWord k) :
    Text.splitChars [':'] (short ++ keyChars [':'] ks) = short :: ks := by
  have hcolon : ∀ k ∈ ks, ':' ∉ k := fun k hk => (hks k hk).notMem (by decide)
  rw [Text.splitChars_append_of_notMem hshort, keyChars,
    Text.splitChars_flatMap hcolon]
  simp

theorem keys_of_isWord (h : ∀ k ∈ ks, IsWord k) :
    TokenName.keys ks = (TokenName.firstOnly ks).map String.ofList := by
  have htrim : ks.map Text.trimBoth = ks := by
    conv_rhs => rw [← List.map_id ks]
    exact List.map_congr_left fun k hk => (h k hk).trimBoth_eq
  have hfilter : (ks.filter fun k => !k.isEmpty) = ks :=
    List.filter_eq_self.mpr fun k hk => by simp [(h k hk).1]
  rw [TokenName.keys, htrim, hfilter]

/-- A name without colons is read back from between its keys, with every key
once. -/
theorem ofDeclaration_keyChars (hshort : ':' ∉ short)
    (htrim : Text.trimBoth short = short)
    (hks : ∀ k ∈ ks, IsWord k) (hcs : ∀ k ∈ cs, IsWord k)
    (full label : String) :
    TokenName.ofDeclaration full label
        (short ++ (keyChars [':'] ks ++ keyChars [':', ':'] cs)) =
      { full
        short := String.ofList short
        label
        contextKeys := (TokenName.firstOnly ks).map String.ofList
        caseKeys := (TokenName.firstOnly cs).map String.ofList } := by
  rw [TokenName.ofDeclaration, splitChars_double hshort hks hcs]
  simp only [List.headD_cons, List.tail_cons, splitChars_single hshort hks,
    htrim, keys_of_isWord hks, keys_of_isWord hcs]

theorem keyChars_mem_keys {mark : List Char} {blanks : Bool}
    (h : ∀ k ∈ ks, IsWord k) :
    keyChars mark ks ∈ Written.keys mark blanks := by
  induction ks with
  | nil => exact Written.nil_mem_keys
  | cons k ks ih =>
      obtain ⟨hk, hks⟩ := List.forall_mem_cons.mp h
      have hkey : mark ++ k ∈ Written.key mark blanks :=
        Written.mem_key.mpr ⟨[], Written.nil_mem_gap, k, hk, by simp⟩
      exact Written.append_mem_keys hkey (ih hks)

/-- Nothing but word characters and marks stands in keys. -/
theorem notMem_keyChars {mark : List Char} {c : Char} (hmark : c ∉ mark)
    (hword : Unicode.isWord c = false) (h : ∀ k ∈ ks, IsWord k) :
    c ∉ keyChars mark ks := by
  intro hc
  obtain ⟨k, hk, hc⟩ := List.mem_flatMap.mp hc
  rcases List.mem_append.mp hc with hc | hc
  · exact hmark hc
  · exact (h k hk).notMem hword hc

end Keys

namespace Declaration

variable (d : Declaration)

def chars : List Char :=
  d.short ++ (keyChars [':'] d.contexts ++ keyChars [':', ':'] d.cases)

/-- A declaration is read back, with every key once. -/
theorem ofDeclaration_chars (full label : String) :
    TokenName.ofDeclaration full label d.chars =
      { full
        short := String.ofList d.short
        label
        contextKeys := (TokenName.firstOnly d.contexts).map String.ofList
        caseKeys := (TokenName.firstOnly d.cases).map String.ofList } :=
  ofDeclaration_keyChars
    (d.isWord_short.notMem (by decide)) d.isWord_short.trimBoth_eq
    d.isWord_contexts d.isWord_cases full label

/-- Nothing but word characters and colons stands in a declaration. -/
theorem notMem_chars {c : Char} (hword : Unicode.isWord c = false)
    (hcolon : c ≠ ':') :
    c ∉ d.chars := by
  have hshort := d.isWord_short.notMem hword
  have hsingle : c ∉ [':'] := by simp [hcolon]
  have hdouble : c ∉ [':', ':'] := by simp [hcolon]
  simp [chars, hshort, notMem_keyChars hsingle hword d.isWord_contexts,
    notMem_keyChars hdouble hword d.isWord_cases]

end Declaration

/-! ## Piped tokens -/

theorem withoutBraces_braced (body : List Char) :
    Token.withoutBraces ('{' :: (body ++ ['}'])) = body := by
  simp [Token.withoutBraces]

/-- A piped token with its parts. The parameters have none of the characters
that end one or end the token. -/
structure PipedForm extends Declaration where
  separator : Separator
  params : List (List Char)
  noLowLine : short.head? ≠ some '_'
  params_ne_nil : ∀ p ∈ params, p ≠ []
  params_trimmed : ∀ p ∈ params, Text.trimBoth p = p
  params_plain : ∀ p ∈ params, ∀ c ∈ p, c ∉ [',', '{', '}', '^', '|']

namespace PipedForm

variable (f : PipedForm)

def paramChars : List Char :=
  [',', ' '].intercalate f.params

def body : List Char :=
  f.toDeclaration.chars ++ (f.separator.chars ++ ' ' :: f.paramChars)

def chars : List Char :=
  '{' :: (f.body ++ ['}'])

theorem notMem_paramChars {c : Char} (hc : c ∈ ['{', '}', '^', '|']) :
    c ∉ f.paramChars := by
  intro hmem
  rcases Text.mem_intercalate hmem with hmark | ⟨p, hp, hmem⟩
  · simp only [List.mem_cons, List.not_mem_nil, or_false] at hc hmark
    rcases hc with rfl | rfl | rfl | rfl <;> simp at hmark
  · exact f.params_plain p hp c hmem (List.mem_cons_of_mem _ hc)

theorem withoutBraces_chars : Token.withoutBraces f.chars = f.body :=
  withoutBraces_braced f.body

theorem separatorOf_body : Token.separatorOf f.body = f.separator := by
  have hbar : '|' ∉ f.toDeclaration.chars :=
    f.notMem_chars (by decide) (by decide)
  have hparams : '|' ∉ f.paramChars := f.notMem_paramChars (by simp)
  unfold Token.separatorOf
  cases hseparator : f.separator with
  | display =>
      have hinfix : Separator.display.chars <:+: f.body := by
        rw [body, hseparator]
        exact ⟨f.toDeclaration.chars, ' ' :: f.paramChars, by simp⟩
      rw [if_pos (Text.hasPart_iff.mpr hinfix)]
  | substitute =>
      -- The separator has the only bar of the body, so no two stand side by
      -- side.
      have hcount : f.body.count '|' = 1 := by
        simp [body, hseparator, Separator.chars,
          List.count_eq_zero_of_not_mem hbar,
          List.count_eq_zero_of_not_mem hparams]
      have hnot : ¬ Separator.display.chars <:+: f.body := by
        intro hinfix
        have hle : Separator.display.chars.count '|' ≤ f.body.count '|' :=
          hinfix.sublist.count_le '|'
        rw [hcount] at hle
        exact absurd hle (by decide)
      rw [if_neg (fun h => hnot (Text.hasPart_iff.mp h))]

theorem cut?_body :
    Text.cut? f.separator.chars f.body =
      some (f.toDeclaration.chars, ' ' :: f.paramChars) := by
  have hbar : '|' ∉ f.toDeclaration.chars :=
    f.notMem_chars (by decide) (by decide)
  unfold body
  cases f.separator with
  | display => exact Text.cut?_append hbar _
  | substitute => exact Text.cut?_append hbar _

theorem paramsOf_paramChars :
    Token.paramsOf (' ' :: f.paramChars) = f.params.map String.ofList := by
  by_cases hnone : f.params = []
  · rw [paramChars, hnone]
    decide
  have hne : f.params.map (' ' :: ·) ≠ [] := by simpa using hnone
  have hcomma : ∀ piece ∈ f.params.map (' ' :: ·), ',' ∉ piece := by
    intro piece hpiece
    obtain ⟨p, hp, rfl⟩ := List.mem_map.mp hpiece
    have hplain : ',' ∉ p := fun hmem => f.params_plain p hp ',' hmem (by simp)
    simpa using hplain
  have htrim : (f.params.map (' ' :: ·)).map Text.trimBoth = f.params := by
    rw [List.map_map]
    conv_rhs => rw [← List.map_id f.params]
    refine List.map_congr_left fun p hp => ?_
    rw [Function.comp_apply, Text.trimBoth_cons_of_isBlank (by decide),
      f.params_trimmed p hp, id]
  have hfilter : (f.params.filter fun p => !p.isEmpty) = f.params :=
    List.filter_eq_self.mpr fun p hp => by simp [f.params_ne_nil p hp]
  rw [paramChars, Text.cons_intercalate hnone, Token.paramsOf,
    Text.splitChars_intercalate hne hcomma, htrim, hfilter]

/-- A piped token is read back part by part. -/
theorem ofPiped_chars (label : String) :
    Token.ofPiped label (String.ofList f.chars) =
      .piped
        { full := String.ofList f.chars
          short := String.ofList f.short
          label
          contextKeys := (TokenName.firstOnly f.contexts).map String.ofList
          caseKeys := (TokenName.firstOnly f.cases).map String.ofList }
        f.separator (f.params.map String.ofList) := by
  simp only [Token.ofPiped, String.toList_ofList, f.withoutBraces_chars,
    f.separatorOf_body, f.cut?_body, Option.getD_some, f.ofDeclaration_chars,
    f.paramsOf_paramChars]

theorem isParamChar_of_mem_paramChars {c : Char} (hc : c ∈ f.paramChars) :
    Label.isParamChar c = true := by
  have hne : ∀ d ∈ ['{', '}', '^', '|'], c ≠ d := by
    rintro d hd rfl
    exact f.notMem_paramChars hd hc
  have hends : c ≠ '{' ∧ c ≠ '^' ∧ c ≠ '}' :=
    ⟨hne '{' (by simp), hne '^' (by simp), hne '}' (by simp)⟩
  simp [Label.isParamChar, hends]

theorem chars_mem_piped : f.chars ∈ Written.piped := by
  obtain ⟨first, name, hshort, hfirst, hname⟩ :=
    f.isWord_short.exists_start f.noLowLine
      (show Unicode.isWord '|' = false by decide)
  obtain ⟨bars, hseparator, hbars⟩ : ∃ bars, f.separator.chars = '|' :: bars ∧
      ∀ c ∈ bars, c = '|' := by
    cases f.separator with
    | display => exact ⟨['|'], rfl, by simp⟩
    | substitute => exact ⟨[], rfl, by simp⟩
  have hparams :
      ∀ c ∈ bars ++ ' ' :: f.paramChars, Label.isParamChar c = true := by
    intro c hc
    rcases List.mem_append.mp hc with hc | hc
    · rw [hbars c hc]
      decide
    · rcases List.mem_cons.mp hc with rfl | hc
      · decide
      · exact f.isParamChar_of_mem_paramChars hc
  exact Written.mem_piped.mpr
    ⟨first, name, keyChars [':'] f.contexts, keyChars [':', ':'] f.cases,
    [], bars ++ ' ' :: f.paramChars, hfirst, hname,
    keyChars_mem_keys f.isWord_contexts, keyChars_mem_keys f.isWord_cases,
    by simp, ⟨by simp, hparams⟩, by
      simp [chars, body, Declaration.chars, hshort, hseparator]⟩

theorem notMem_body {c : Char} (hword : Unicode.isWord c = false)
    (hmark : c ∉ [':', '|', ' '])
    (hparams : c ∉ f.paramChars) : c ∉ f.body := by
  obtain ⟨hcolon, hbar, hspace⟩ : c ≠ ':' ∧ c ≠ '|' ∧ c ≠ ' ' := by
    simpa using hmark
  have hseparator : c ∉ f.separator.chars := by
    cases f.separator <;> simp [Separator.chars, hbar]
  have hdeclaration : c ∉ f.toDeclaration.chars := f.notMem_chars hword hcolon
  simp [body, hdeclaration, hseparator, hspace, hparams]

theorem braced_chars : Written.Braced f.chars :=
  ⟨f.body, rfl,
    f.notMem_body (by decide) (by decide) (f.notMem_paramChars (by simp)),
    f.notMem_body (by decide) (by decide) (f.notMem_paramChars (by simp))⟩

def written : WrittenToken where
  kind := .piped
  chars := f.chars
  written := f.chars_mem_piped
  braced := f.braced_chars

end PipedForm
end Phrasebook

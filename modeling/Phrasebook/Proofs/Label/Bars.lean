import Phrasebook.Proofs.Label.Order
import Phrasebook.Proofs.Label.Reading

/-!
# Where a piped token is cut

In the pattern of piped tokens the bar of the separator is the first one, and a
second bar belongs to the separator if it stands next to it. A token is taken
apart by another rule: wherever in its text two bars stand side by side, they
are the separator. The two rules agree unless the first bar stands alone and two
bars follow further on. Then the token is cut at those, and the first bar ends
up among the name and the keys.
-/

namespace Phrasebook
namespace Label

variable {s declaration behind : List Char}

/-- The parameters are what stands between the commas of a text, trimmed, unless
nothing does. -/
def CommaSeparated (s : List Char) (params : List String) : Prop :=
  ∃ pieces : List (List Char), (∀ piece ∈ pieces, ',' ∉ piece) ∧
    [','].intercalate pieces = s ∧
    params.map String.toList = (pieces.map Text.trimBoth).filter (!·.isEmpty)

theorem commaSeparated_paramsOf (s : List Char) :
    CommaSeparated s (Token.paramsOf s) := by
  refine ⟨Text.splitChars [','] s, fun _ => Text.notMem_of_mem_splitChars,
    ?_, ?_⟩
  · exact (Text.intercalate_splitFrom (by simp) 0 s).trans List.drop_zero
  · simp [Token.paramsOf, Function.comp_def]

/-- The short name is what stands before the first colon, trimmed. -/
theorem short_ofDeclaration (full label : String) (declaration : List Char) :
    (TokenName.ofDeclaration full label declaration).short.toList =
      Text.trimBoth (declaration.takeWhile (· != ':')) := by
  have hhead : ∀ s : List Char,
      (Text.splitChars [':'] s).headD [] = s.takeWhile (· != ':') := by
    intro s
    have htake := Text.takeWhile_head_splitChars ':' [] s
    have hcolon : ':' ∉ (Text.splitChars [':'] s).headD [] := by
      obtain ⟨piece, pieces, hpieces⟩ :=
        List.exists_cons_of_ne_nil (Text.splitFrom_ne_nil [':'] 0 s)
      rw [Text.splitChars, hpieces, List.headD_cons]
      exact Text.notMem_of_mem_splitChars (s := s)
        (by simp [Text.splitChars, hpieces])
    rw [← htake, List.takeWhile_eq_self_iff.mpr]
    intro c hc
    have hne : c ≠ ':' := by
      rintro rfl
      exact hcolon hc
    simpa using hne
  rw [TokenName.ofDeclaration, String.toList_ofList, hhead,
    Text.takeWhile_head_splitChars]

/-! ## The two rules -/

/-- The text of a piped token up to the first bar, and behind it. -/
theorem exists_firstBar_of_mem_piped (h : s ∈ Written.piped) :
    ∃ declaration behind, s = '{' :: (declaration ++ '|' :: behind ++ ['}']) ∧
      '|' ∉ declaration := by
  obtain ⟨first, name, ks, cs, g, params, ⟨-, -, hfirst⟩, hname, hks, hcs, hg,
    -, rfl⟩ :=
    Written.mem_piped.mp h
  refine ⟨first :: (name ++ (ks ++ (cs ++ g))), params, by simp, ?_⟩
  have hkey : ∀ {mark ks : List Char}, '|' ∉ mark →
      ks ∈ Written.keys mark false →
      '|' ∉ ks := by
    intro mark ks hmark hks hmem
    rcases Written.class_of_mem_keys hks _ hmem with hc | hc | hc
    · exact hmark hc
    · exact absurd hc (by decide)
    · exact absurd hc (by decide)
  simp only [List.mem_cons, List.mem_append]
  rintro (hc | hc | hc | hc | hc)
  · exact hfirst hc.symm
  · exact absurd (hname _ hc) (by decide)
  · exact hkey (by decide) hks hc
  · exact hkey (by decide) hcs hc
  · exact absurd (hg _ hc) (by decide)

/-- Two bars side by side are the first bar and the next character, or they
stand behind it. -/
theorem doubleBar_infix_iff (hbar : '|' ∉ declaration) :
    ['|', '|'] <:+: declaration ++ '|' :: behind ↔ ['|'] <+: behind ∨
    ['|', '|'] <:+: behind := by
  induction declaration with
  | nil => simp [List.infix_cons_iff]
  | cons c declaration ih =>
      obtain ⟨hne, hrest⟩ : '|' ≠ c ∧ '|' ∉ declaration := by simpa using hbar
      rw [List.cons_append, List.infix_cons_iff, ih hrest]
      simp [hne]

/-- If the first bar is the first of two, or no two bars follow behind it, then
the token is cut there. -/
theorem cut?_at_firstBar (hbar : '|' ∉ declaration)
    (hfirst : ['|', '|'] <:+: behind → ['|'] <+: behind) :
    let separator := Token.separatorOf (declaration ++ '|' :: behind)
    let text := if separator = .display then behind.tail else behind
    (separator = .display ↔ ['|'] <+: behind) ∧
      Text.cut? separator.chars (declaration ++ '|' :: behind) =
        some (declaration, text) := by
  by_cases hsecond : ['|'] <+: behind
  · have hpart :
        Text.hasPart Separator.display.chars (declaration ++ '|' :: behind) =
          true :=
      Text.hasPart_iff.mpr ((doubleBar_infix_iff hbar).mpr (.inl hsecond))
    rw [Token.separatorOf, if_pos hpart]
    obtain ⟨rest, rfl⟩ := hsecond
    exact ⟨by simp, Text.cut?_append hbar rest⟩
  · have hpart :
        ¬ Text.hasPart Separator.display.chars (declaration ++ '|' :: behind) =
          true := by
      intro hpart
      rcases (doubleBar_infix_iff hbar).mp (Text.hasPart_iff.mp hpart)
        with h | h
      · exact hsecond h
      · exact hsecond (hfirst h)
    rw [Token.separatorOf, if_neg hpart]
    exact ⟨by simp [hsecond], Text.cut?_append hbar behind⟩

/-- If the first bar stands alone and two bars follow further on, then the token
is cut at the first two of those. -/
theorem cut?_at_laterBars (hbar : '|' ∉ declaration)
    (hsecond : ¬ ['|'] <+: behind) (hlater : ['|', '|'] <:+: behind) :
    Token.separatorOf (declaration ++ '|' :: behind) = .display ∧
      ∃ front rest, behind = front ++ '|' :: '|' :: rest ∧
      ¬ ['|', '|'] <:+: front ++ ['|'] ∧
        Text.cut? Separator.display.chars (declaration ++ '|' :: behind) =
          some (declaration ++ '|' :: front, rest) := by
  have hpart : Text.hasPart Separator.display.chars
      (declaration ++ '|' :: behind) = true :=
    Text.hasPart_iff.mpr ((doubleBar_infix_iff hbar).mpr (.inr hlater))
  obtain ⟨front, rest, hcut⟩ := Text.exists_cut? hlater
  obtain ⟨hbehind, hearlier⟩ := Text.cut?_sound hcut
  refine ⟨by rw [Token.separatorOf, if_pos hpart], front, rest, hbehind, ?_, ?_⟩
  · rintro ⟨before, after, hfront⟩
    rw [List.append_assoc] at hfront
    rcases List.append_eq_append_iff.mp hfront with ⟨u, rfl, hu⟩ | ⟨u, rfl, hu⟩
    · refine hearlier u (List.suffix_append _ _) ?_ ⟨after ++ '|' :: rest, ?_⟩
      · rintro rfl
        simp at hu
      · rw [← List.append_assoc, hu]
        simp
    · have hlength := congrArg List.length hu
      simp at hlength
      omega
  · have hprefix : ¬ ['|', '|'] <+: '|' :: behind := by
      simpa [List.cons_prefix_cons] using hsecond
    have hdouble : Separator.display.chars = ['|', '|'] := rfl
    rw [hdouble, Text.cut?_append_of_notMem hbar,
      Text.cut?_cons_of_not_isPrefix hprefix, hcut]
    rfl

/-! ## The tokens of a label -/

theorem ofPiped_of_cut? {body text : List Char} (label : String)
    (hcut : Text.cut? (Token.separatorOf body).chars body =
      some (declaration, text)) :
    let full := String.ofList ('{' :: (body ++ ['}']))
    Token.ofPiped label full =
      .piped (TokenName.ofDeclaration full label declaration)
      (Token.separatorOf body) (Token.paramsOf text) := by
  simp only [Token.ofPiped, String.toList_ofList, withoutBraces_braced, hcut,
    Option.getD_some]

/-- The first bar stands before the first colon unless a colon stands before
it. -/
theorem mem_takeWhile_iff (hbar : '|' ∉ declaration) (front : List Char) :
    '|' ∈ (declaration ++ '|' :: front).takeWhile (· != ':') ↔
      ':' ∉ declaration := by
  induction declaration with
  | nil => simp
  | cons c declaration ih =>
      obtain ⟨hne, hrest⟩ : '|' ≠ c ∧ '|' ∉ declaration := by simpa using hbar
      by_cases hc : c = ':'
      · simp [hc]
      · simp [hc, hne, Ne.symm hc, ih hrest]

/-- A piped token is taken apart at its first bar if that is the first of two or
no two bars follow. Then its short name has no bar, the separator is doubled
just if the first bar is, and the parameters are what stands between the commas
up to the closing brace. Otherwise it is taken apart at the first two bars that
follow, and its first bar stands in the short name unless a colon comes before
it. -/
theorem piped_of_mem_tokens {label : String} {name : TokenName}
    {separator : Separator}
    {params : List String} (h : .piped name separator params ∈ tokens label) :
    ∃ declaration behind, name.full.toList =
      '{' :: (declaration ++ '|' :: behind ++ ['}']) ∧
      '|' ∉ declaration ∧
      ((['|', '|'] <:+: behind → ['|'] <+: behind) →
        '|' ∉ name.short.toList ∧ (separator = .display ↔ ['|'] <+: behind) ∧
          CommaSeparated
            (if separator = .display then behind.tail else behind) params) ∧
      (¬ (['|', '|'] <:+: behind → ['|'] <+: behind) →
        separator = .display ∧ ('|' ∈ name.short.toList ↔ ':' ∉ declaration) ∧
          ∃ front rest, behind = front ++ '|' :: '|' :: rest ∧
            ¬ ['|', '|'] <:+: front ++ ['|'] ∧ CommaSeparated rest params) := by
  obtain ⟨k, part, hkept, htoken⟩ := mem_tokens.mp h
  have hkind : k = .piped := by
    rw [← TokenKind.kind_token k label (String.ofList part), htoken]
    rfl
  subst hkind
  have hpart : part ∈ Written.piped :=
    mem_ofKind_of_mem_claimed (mem_of_mem_firstClaims hkept)
  obtain ⟨declaration, behind, rfl, hbar⟩ := exists_firstBar_of_mem_piped hpart
  have hshort : ∀ s : List Char, '|' ∈ Text.trimBoth (s.takeWhile (· != ':')) ↔
      '|' ∈ s.takeWhile (· != ':') := fun s => Text.mem_trimBoth (by decide)
  refine ⟨declaration, behind, ?_, hbar, fun hfirst => ?_, fun hlater => ?_⟩
  · have hfull := Rendering.full_token .piped label
      (String.ofList ('{' :: (declaration ++ '|' :: behind ++ ['}'])))
    rw [htoken] at hfull
    exact (congrArg String.toList hfull).trans String.toList_ofList
  · obtain ⟨hdisplay, hcut⟩ := cut?_at_firstBar hbar hfirst
    obtain ⟨rfl, rfl, rfl⟩ :=
      Token.piped.inj ((ofPiped_of_cut? label hcut).symm.trans htoken)
    rw [short_ofDeclaration, hshort]
    refine ⟨fun hmem => hbar ?_, hdisplay, commaSeparated_paramsOf _⟩
    exact (List.takeWhile_prefix _).subset hmem
  · obtain ⟨hlaterBars, hsecond⟩ := Classical.not_imp.mp hlater
    obtain ⟨hdisplay, front, rest, rfl, hearlier, hcut⟩ :=
      cut?_at_laterBars hbar hsecond hlaterBars
    rw [← hdisplay] at hcut
    obtain ⟨rfl, rfl, rfl⟩ :=
      Token.piped.inj ((ofPiped_of_cut? label hcut).symm.trans htoken)
    rw [short_ofDeclaration, hshort, mem_takeWhile_iff hbar]
    exact ⟨hdisplay, Iff.rfl, front, rest, rfl, hearlier,
      commaSeparated_paramsOf rest⟩

/-- Single bars in the parameters do no harm. -/
theorem piped_of_mem_tokens_count :
    let label := "You have \x7bcount:number|| one | 1, other\x7d"
    let full := "\x7bcount:number|| one | 1, other\x7d"
    .piped ⟨full, "count", label, ["number"], []⟩ .display
      ["one | 1", "other"] ∈ tokens label ∧
      ∃ declaration behind,
        full.toList = '{' :: (declaration ++ '|' :: behind ++ ['}']) ∧
        '|' ∉ declaration ∧ ['|'] <+: behind ∧
        CommaSeparated behind.tail ["one | 1", "other"] := by
  intro label full
  have hmem : .piped ⟨full, "count", label, ["number"], []⟩ .display
      ["one | 1", "other"] ∈
      tokens label := by decide +kernel
  obtain ⟨declaration, behind, hfull, hbar, hfirst, -⟩ :=
    piped_of_mem_tokens hmem
  have hparts : declaration ++ '|' :: (behind ++ ['}']) =
      "count:number".toList ++ '|' :: "| one | 1, other\x7d".toList := by
    simpa [full] using hfull.symm
  obtain ⟨-, -, hbehind⟩ :=
    Text.cons_eq_of_append_cons_eq hparts (by decide) hbar
  have hsecond : ['|'] <+: behind := by
    cases behind with
    | nil => simp at hbehind
    | cons c behind =>
        obtain ⟨rfl, -⟩ : c = '|' ∧ _ := List.cons.inj hbehind
        exact ⟨behind, rfl⟩
  exact ⟨hmem, declaration, behind, hfull, hbar, hsecond,
    (hfirst fun _ => hsecond).2.2⟩

/-- The first bar stands alone, but the token is cut at the two bars behind it,
and its short name has the first bar in it. -/
theorem laterBars_cut :
    let label := "\x7bx" ++ "|" ++ "a||b\x7d"
    tokens label = [.piped ⟨label, "x|a", label, [], []⟩ .display ["b"]] ∧
      '|' ∉ "\x7bx".toList ∧ ¬ ['|'] <+: "a||b\x7d".toList ∧
      '|' ∈ "x|a".toList := by
  decide +kernel

end Label
end Phrasebook

import Phrasebook.Proofs.Label.Extraction
import Phrasebook.Proofs.Label.Reading

/-!
# Tokens read back as declared

A token is declared by a name, by context keys behind single colons and by case
keys behind double ones, and a piped token by its parameters as well. A label
that is nothing but the declaration of a token, in braces, has that token and no
other, and all parts of the token are those of the declaration. A key that is
given twice counts where it is given first.
-/

namespace Phrasebook

/-! ## Each key once -/

namespace TokenName

theorem firstOnly_filter (p : List Char → Bool) (ks : List (List Char)) :
    firstOnly (ks.filter p) = (firstOnly ks).filter p := by
  induction ks with
  | nil => rfl
  | cons k ks ih =>
      by_cases hk : p k = true
      · rw [List.filter_cons_of_pos hk, firstOnly, firstOnly, ih,
          List.filter_cons_of_pos hk, List.filter_comm]
      · rw [List.filter_cons_of_neg hk, firstOnly, ih,
          List.filter_cons_of_neg hk, List.filter_filter]
        refine List.filter_congr fun k' _ => ?_
        have hne : p k' = true → k' ≠ k := by
          rintro hk' rfl
          exact hk hk'
        rw [Bool.eq_iff_iff]
        simpa using hne

theorem firstOnly_eq_eraseDups :
    (ks : List (List Char)) → firstOnly ks = ks.eraseDups
  | [] => rfl
  | k :: ks => by
    rw [List.eraseDups_cons, ← firstOnly_eq_eraseDups, firstOnly_filter,
      firstOnly]
    rfl
termination_by ks => ks.length
decreasing_by exact Nat.lt_succ_of_le (List.length_filter_le _ ks)

end TokenName

/-! ## Data tokens -/

namespace Declaration

variable (d : Declaration)

def dataChars : List Char :=
  '{' :: (d.chars ++ ['}'])

theorem ofData_dataChars (label : String) :
    Token.ofData label (String.ofList d.dataChars) =
      .data
        { full := String.ofList d.dataChars
          short := String.ofList d.short
          label
          contextKeys := (TokenName.firstOnly d.contexts).map String.ofList
          caseKeys := (TokenName.firstOnly d.cases).map String.ofList } := by
  have hfront : Text.Stops (fun c => c == '%' || c == '{')
      (d.chars ++ ['}']) := by
    have hpercent : '%' ∉ d.chars ++ ['}'] := by
      simpa using d.notMem_chars (by decide) (by decide)
    have hbrace : '{' ∉ d.chars ++ ['}'] := by
      simpa using d.notMem_chars (by decide) (by decide)
    refine Text.stops_of_forall fun c hc => ?_
    simp [ne_of_mem_of_not_mem hc hpercent, ne_of_mem_of_not_mem hc hbrace]
  have hback : Text.Stops (· == '}') d.chars.reverse := by
    refine Text.stops_of_forall fun c hc => ?_
    have hclose : '}' ∉ d.chars := d.notMem_chars (by decide) (by decide)
    simpa using ne_of_mem_of_not_mem (List.mem_reverse.mp hc) hclose
  have hopen : ∀ c ∈ ['{'], (c == '%' || c == '{') = true := by simp
  have hclose : ∀ c ∈ ['}'], (c == '}') = true := by simp
  have hdrop : d.dataChars.dropWhile (fun c => c == '%' || c == '{') =
      d.chars ++ ['}'] :=
    Text.dropWhile_append_of_stops hopen hfront
  have hreverse :
      (d.chars ++ ['}']).reverse.dropWhile (· == '}') = d.chars.reverse := by
    rw [List.reverse_append]
    exact Text.dropWhile_append_of_stops hclose hback
  rw [Token.ofData, String.toList_ofList]
  simp only [hdrop, hreverse, List.reverse_reverse, d.ofDeclaration_chars]

theorem braced_dataChars : Written.Braced d.dataChars :=
  ⟨d.chars, rfl, d.notMem_chars (by decide) (by decide),
    d.notMem_chars (by decide) (by decide)⟩

theorem dataChars_mem_data : d.dataChars ∈ Written.data :=
  (Written.mem_data_of_braced d.braced_dataChars).mpr
    ⟨[], d.short, [], keyChars [':'] d.contexts,
    [], keyChars [':', ':'] d.cases, [], by simp, d.isWord_short,
    keyChars_mem_keys d.isWord_contexts, keyChars_mem_keys d.isWord_cases,
    by simp [dataChars, chars]⟩

def written : WrittenToken where
  kind := .data
  chars := d.dataChars
  written := d.dataChars_mem_data
  braced := d.braced_dataChars

end Declaration

/-! ## Method tokens -/

/-- A method token with its parts, all of them words. -/
structure MethodForm where
  owner : List Char
  member : List Char
  contexts : List (List Char)
  cases : List (List Char)
  isWord_owner : IsWord owner
  noLowLine : owner.head? ≠ some '_'
  isWord_member : IsWord member
  isWord_contexts : ∀ k ∈ contexts, IsWord k
  isWord_cases : ∀ k ∈ cases, IsWord k

namespace MethodForm

variable (f : MethodForm)

def short : List Char :=
  f.owner ++ '.' :: f.member

def body : List Char :=
  f.short ++ (keyChars [':'] f.contexts ++ keyChars [':', ':'] f.cases)

def chars : List Char :=
  '{' :: (f.body ++ ['}'])

theorem notMem_short {c : Char} (hword : Unicode.isWord c = false)
    (hpoint : c ≠ '.') :
    c ∉ f.short := by
  simp [short, f.isWord_owner.notMem hword, f.isWord_member.notMem hword,
    hpoint]

theorem notMem_body {c : Char} (hword : Unicode.isWord c = false)
    (hmark : c ∉ ['.', ':']) :
    c ∉ f.body := by
  obtain ⟨hpoint, hcolon⟩ : c ≠ '.' ∧ c ≠ ':' := by simpa using hmark
  have hsingle : c ∉ [':'] := by simp [hcolon]
  have hdouble : c ∉ [':', ':'] := by simp [hcolon]
  simp [body, f.notMem_short hword hpoint,
    notMem_keyChars hsingle hword f.isWord_contexts,
    notMem_keyChars hdouble hword f.isWord_cases]

theorem trimBoth_short : Text.trimBoth f.short = f.short := by
  have hblank : ∀ c ∈ f.short, Text.isBlank c = false := by
    intro c hc
    rcases List.mem_append.mp hc with hc | hc
    · exact Label.isBlank_eq_false_of_isWord (f.isWord_owner.2 c hc)
    · rcases List.mem_cons.mp hc with rfl | hc
      · decide
      · exact Label.isBlank_eq_false_of_isWord (f.isWord_member.2 c hc)
  have hreverse : ∀ c ∈ f.short.reverse, Text.isBlank c = false := by
    simpa using hblank
  exact Text.trimBoth_eq_self (Text.stops_of_forall hblank)
    (Text.stops_of_forall hreverse)

theorem ofMethod_chars (label : String) :
    Token.ofMethod label (String.ofList f.chars) =
      .method
        { full := String.ofList f.chars
          short := String.ofList f.short
          label
          contextKeys := (TokenName.firstOnly f.contexts).map String.ofList
          caseKeys := (TokenName.firstOnly f.cases).map String.ofList }
        (String.ofList f.owner) (String.ofList f.member) := by
  have hpoint : '.' ∉ f.owner := f.isWord_owner.notMem (by decide)
  have hcut : Text.cut? ['.'] f.short = some (f.owner, f.member) :=
    Text.cut?_append hpoint _
  have hbody : Token.withoutBraces f.chars = f.body :=
    withoutBraces_braced f.body
  have hname :=
    ofDeclaration_keyChars
      (f.notMem_short (by decide) (by decide)) f.trimBoth_short
    f.isWord_contexts f.isWord_cases (String.ofList f.chars) label
  rw [Token.ofMethod, String.toList_ofList, hbody, body, hname]
  simp only [String.toList_ofList, hcut]

theorem chars_mem_method : f.chars ∈ Written.method := by
  obtain ⟨first, name, howner, hfirst, hname⟩ :=
    f.isWord_owner.exists_start f.noLowLine
      (show Unicode.isWord '.' = false by decide)
  have hmember : '.' :: f.member ∈ Written.key ['.'] false :=
    Written.mem_key.mpr
      ⟨[], Written.nil_mem_gap, f.member, f.isWord_member, rfl⟩
  exact Written.mem_method.mpr
    ⟨first, name, '.' :: f.member, keyChars [':'] f.contexts,
    keyChars [':', ':'] f.cases, hfirst, hname, hmember,
    keyChars_mem_keys f.isWord_contexts,
    keyChars_mem_keys f.isWord_cases, by simp [chars, body, short, howner]⟩

def written : WrittenToken where
  kind := .method
  chars := f.chars
  written := f.chars_mem_method
  braced := ⟨f.body, rfl, f.notMem_body (by decide) (by decide),
    f.notMem_body (by decide) (by decide)⟩

end MethodForm

/-! ## Labels of one token -/

namespace Label

theorem tokens_written (t : WrittenToken) :
    tokens (String.ofList t.chars) =
      [t.kind.token (String.ofList t.chars) (String.ofList t.chars)] := by
  have hlabel : ofPieces [.token t] = String.ofList t.chars := by
    simp [ofPieces, charsOf, Piece.chars]
  have hwritten :
      ∀ k, writtenOf k [.token t] = if t.kind = k then [t.chars] else [] := by
    intro k
    by_cases hk : t.kind = k
    · simp [writtenOf, Piece.isOf, Piece.chars, hk]
    · simp [writtenOf, Piece.isOf, hk]
  have htokens := tokens_ofPieces [.token t]
  simp only [hlabel, hwritten] at htokens
  rw [htokens]
  cases t.kind <;> rfl

/-- The name parts of a token that is declared in a label of its own. -/
def declaredName (label : String) (short : List Char)
    (contexts cases : List (List Char)) :
    TokenName where
  full := label
  short := String.ofList short
  label
  contextKeys := contexts.eraseDups.map String.ofList
  caseKeys := cases.eraseDups.map String.ofList

/-- A token declaration is read back as written. In a label of its own a
declaration in braces is the only token: a data token, or a method token where a
point divides the name, or a piped token where a separator and parameters
follow. It has the parts of the declaration, every key once. -/
theorem tokens_of_declared :
    (∀ d : Declaration, tokens (String.ofList d.dataChars) =
      [.data
        (declaredName (String.ofList d.dataChars) d.short d.contexts
          d.cases)]) ∧
    (∀ f : MethodForm, tokens (String.ofList f.chars) =
      [.method (declaredName (String.ofList f.chars) f.short f.contexts f.cases)
        (String.ofList f.owner) (String.ofList f.member)]) ∧
    ∀ f : PipedForm, tokens (String.ofList f.chars) =
      [.piped (declaredName (String.ofList f.chars) f.short f.contexts f.cases)
        f.separator (f.params.map String.ofList)] := by
  simp only [declaredName, ← TokenName.firstOnly_eq_eraseDups]
  refine ⟨fun d => ?_, fun f => ?_, fun f => ?_⟩
  · rw [← d.ofData_dataChars]
    exact tokens_written d.written
  · rw [← f.ofMethod_chars]
    exact tokens_written f.written
  · rw [← f.ofPiped_chars]
    exact tokens_written f.written

/-- A name with a key of a context and a case key that is repeated. -/
def actor : Declaration where
  short := "actor".toList
  contexts := ["gender".toList]
  cases := ["gen".toList, "pos".toList, "gen".toList]
  isWord_short := by simp [IsWord, Unicode.isWord, Unicode.isAsciiWord]
  isWord_contexts := by simp [IsWord, Unicode.isWord, Unicode.isAsciiWord]
  isWord_cases := by simp [IsWord, Unicode.isWord, Unicode.isAsciiWord]

def actorName : MethodForm where
  owner := "actor".toList
  member := "name".toList
  contexts := []
  cases := ["gen".toList]
  isWord_owner := by simp [IsWord, Unicode.isWord, Unicode.isAsciiWord]
  noLowLine := by decide
  isWord_member := by simp [IsWord, Unicode.isWord, Unicode.isAsciiWord]
  isWord_contexts := by simp [IsWord, Unicode.isWord, Unicode.isAsciiWord]
  isWord_cases := by simp [IsWord, Unicode.isWord, Unicode.isAsciiWord]

def actorPhrases : PipedForm where
  toDeclaration := actor
  separator := .display
  params := ["he did".toList, "she did".toList]
  noLowLine := by decide
  params_ne_nil := by decide
  params_trimmed := by decide +kernel
  params_plain := by simp

theorem tokens_of_declared_actor :
    tokens "{actor:gender::gen::pos::gen}" =
        [.data ⟨"{actor:gender::gen::pos::gen}", "actor",
          "{actor:gender::gen::pos::gen}", ["gender"], ["gen", "pos"]⟩] ∧
      tokens "{actor.name::gen}" =
        [.method ⟨"{actor.name::gen}", "actor.name", "{actor.name::gen}", [],
          ["gen"]⟩ "actor" "name"] ∧
      tokens "{actor:gender::gen::pos::gen|| he did, she did}" =
        [.piped ⟨"{actor:gender::gen::pos::gen|| he did, she did}", "actor",
          "{actor:gender::gen::pos::gen|| he did, she did}", ["gender"],
          ["gen", "pos"]⟩ .display ["he did", "she did"]] := by
  obtain ⟨hdata, hmethod, hpiped⟩ := tokens_of_declared
  refine ⟨(hdata actor).trans ?_, (hmethod actorName).trans ?_,
    (hpiped actorPhrases).trans ?_⟩
  · decide +kernel
  · decide +kernel
  · decide +kernel

end Label
end Phrasebook

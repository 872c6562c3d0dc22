import Phrasebook.Proofs.Label.Kinds

/-!
# From an opening brace to the next closing brace

Whatever form a token has, what it stands for is said between one opening brace
and the next closing brace: doubled braces and a percent sign change neither
the name nor the value of a data token. So a text has no more tokens to fill in
than it has texts from brace to brace.
-/

namespace Phrasebook
namespace Written

/-! ## One pair of braces -/

variable {s t : List Char}

instance (s : List Char) : Decidable (Unbraced s) :=
  inferInstanceAs (Decidable (_ ∧ _))

/-- The text goes from an opening brace to the next closing brace. The character
behind the opening brace may be any, as it may be in the name of a token. -/
def Tight (s : List Char) : Prop :=
  ∃ first inner, s = '{' :: first :: (inner ++ ['}']) ∧ Unbraced inner

theorem Tight.eq_of_isInfix (hs : Tight s) (ht : Braced t) (h : s <:+: t) :
    s = t := by
  obtain ⟨first, inner, rfl, -⟩ := hs
  obtain ⟨inner', rfl, hopen, hclose⟩ := ht
  rcases List.infix_cons_iff.mp h with ⟨rest, hrest⟩ | hlater
  · cases rest using List.reverseRecOn with
    | nil => simpa using hrest
    | append_singleton rest c =>
        have hrest : first :: (inner ++ ['}']) ++ rest ++ [c] =
            inner' ++ ['}'] := by
          simpa using hrest
        obtain ⟨rfl, -⟩ := List.append_inj' hrest rfl
        simp at hclose
  · have hmem : '{' ∈ inner' ++ ['}'] := hlater.subset List.mem_cons_self
    simp [hopen] at hmem

theorem unbraced_append : Unbraced (s ++ t) ↔ Unbraced s ∧ Unbraced t := by
  simp only [Unbraced, List.mem_append]
  tauto

theorem unbraced_of_forall {p : Char → Prop} (h : ∀ c ∈ s, p c)
    (hopen : ¬ p '{')
    (hclose : ¬ p '}') : Unbraced s :=
  ⟨fun hmem => hopen (h _ hmem), fun hmem => hclose (h _ hmem)⟩

theorem unbraced_of_isWord (h : ∀ c ∈ s, Unicode.isWord c = true) :
    Unbraced s :=
  unbraced_of_forall h (by decide) (by decide)

theorem unbraced_of_isBlank (h : ∀ c ∈ s, Text.isBlank c = true) : Unbraced s :=
  unbraced_of_forall h (by decide) (by decide)

theorem unbraced_of_mem_keys {mark : List Char} {b : Bool}
    (hs : s ∈ keys mark b) (hmark : Unbraced mark) : Unbraced s := by
  apply unbraced_of_forall (class_of_mem_keys hs)
  · simpa [hmark.1]
      using (by decide : Text.isBlank '{' = false ∧ Unicode.isWord '{' = false)
  · simpa [hmark.2]
      using (by decide : Text.isBlank '}' = false ∧ Unicode.isWord '}' = false)

theorem tight_of_mem_piped (hs : s ∈ piped) : Tight s := by
  obtain ⟨first, name, ks, cs, g, params, -, hname, hks, hcs, hg, ⟨-, hparams⟩,
    rfl⟩ :=
    mem_piped.mp hs
  refine ⟨first, name ++ (ks ++ (cs ++ (g ++ ('|' :: params)))), by simp, ?_⟩
  have hbar : Unbraced ('|' :: params) := by
    apply unbraced_of_forall
      (p := fun c => c = '|' ∨ Label.isParamChar c = true)
    · simpa using fun c hc => .inr (hparams c hc)
    · decide
    · decide
  simp only [unbraced_append]
  exact ⟨unbraced_of_isWord hname,
    unbraced_of_mem_keys hks (by simp [Unbraced]),
    unbraced_of_mem_keys hcs (by simp [Unbraced]), unbraced_of_isBlank hg, hbar⟩

theorem tight_of_mem_method (hs : s ∈ method) : Tight s := by
  obtain ⟨first, name, k, ks, cs, -, hname, hk, hks, hcs, rfl⟩ :=
    mem_method.mp hs
  have hk : k ∈ keys ['.'] false := by
    simpa using append_mem_keys hk nil_mem_keys
  refine ⟨first, name ++ (k ++ (ks ++ cs)), by simp, ?_⟩
  simp only [unbraced_append]
  exact ⟨unbraced_of_isWord hname, unbraced_of_mem_keys hk (by simp [Unbraced]),
    unbraced_of_mem_keys hks (by simp [Unbraced]),
    unbraced_of_mem_keys hcs (by simp [Unbraced])⟩

/-- A character of a name, of keys or of the blanks around them. -/
def IsInner (c : Char) : Prop :=
  c = ':' ∨ Text.isBlank c = true ∨ Unicode.isWord c = true

instance (c : Char) : Decidable (IsInner c) :=
  inferInstanceAs (Decidable (_ ∨ _ ∨ _))

theorem IsInner.ne {c d : Char} (hc : IsInner c) (hd : ¬ IsInner d) :
    c ≠ d := by
  rintro rfl
  exact hd hc

theorem unbraced_of_isInner (h : ∀ c ∈ s, IsInner c) : Unbraced s :=
  unbraced_of_forall h (by decide) (by decide)

/-- The data token in simple braces that any form of a data token has inside
it. -/
theorem exists_core_of_mem_data (hs : s ∈ data) : ∃ front body back,
    s = front ++ '{' :: (body ++ '}' :: back) ∧
      (∀ c ∈ front, c = '%' ∨ c = '{') ∧
      (∀ c ∈ back, c = '}') ∧ (body ≠ [] ∧ ∀ c ∈ body, IsInner c) ∧
      '{' :: (body ++ ['}']) ∈ data := by
  simp only [data, mul_assoc, Language.mem_mul] at hs
  obtain ⟨percent, hpercent, _, ⟨_, rfl, _, ⟨second, hsecond, _, ⟨g₁, hg₁, _,
    ⟨w, hw, _, ⟨g₂, hg₂, _, ⟨ks, hks, _, ⟨g₃, hg₃, _, ⟨cs, hcs, _, ⟨g₄, hg₄, _,
    ⟨_, rfl, last, hlast, rfl⟩, rfl⟩, rfl⟩, rfl⟩, rfl⟩, rfl⟩, rfl⟩, rfl⟩, rfl⟩,
    rfl⟩, rfl⟩ := hs
  have hw := mem_someRun.mp hw
  have hgaps : ∀ c ∈ g₁ ++ g₂ ++ g₃ ++ g₄, Text.isBlank c = true := by
    simpa only [List.forall_mem_append] using
      ⟨⟨⟨mem_run.mp hg₁, mem_run.mp hg₂⟩, mem_run.mp hg₃⟩, mem_run.mp hg₄⟩
  have hkeys : ∀ c ∈ ks ++ cs, IsInner c := by
    intro c hc
    rcases List.mem_append.mp hc with hc | hc
    · exact (class_of_mem_keys hks c hc).imp_left List.mem_singleton.mp
    · exact (class_of_mem_keys hcs c hc).imp_left (by simp)
  have hinner : ∀ c ∈ g₁ ++ (w ++ (g₂ ++ (ks ++ (g₃ ++ (cs ++ g₄))))),
      IsInner c := by
    have hblank := fun c hc => (.inr (.inl (hgaps c hc)) : IsInner c)
    have hword := fun c hc => (.inr (.inr (hw.2 c hc)) : IsInner c)
    simp only [List.forall_mem_append] at hblank hkeys ⊢
    tauto
  have hunbraced := unbraced_of_isInner hinner
  refine ⟨percent ++ second, g₁ ++ (w ++ (g₂ ++ (ks ++ (g₃ ++ (cs ++ g₄))))),
    last, ?_, ?_, ?_,
    ⟨by simp [hw.1], hinner⟩, ?_⟩
  · rcases mem_optional.mp hsecond with rfl | rfl
    · simp
    · simp
  · rcases mem_optional.mp hpercent with rfl | rfl <;>
      rcases mem_optional.mp hsecond with rfl | rfl <;> simp
  · rcases mem_optional.mp hlast with rfl | rfl <;> simp
  · rw [mem_data_of_braced ⟨_, rfl, hunbraced⟩]
    exact ⟨g₁, w, g₂, ks, g₃, cs, g₄, hgaps, hw, hks, hcs, by simp⟩

/-- A text needs both braces for a token to be spelled in it. -/
theorem not_isInfix_of_mem_ofKind {k : TokenKind} (hs : s ∈ ofKind k)
    (ht : '{' ∉ t ∨ '}' ∉ t) : ¬ s <:+: t := by
  intro h
  have hbraces : '{' ∈ s ∧ '}' ∈ s := by
    cases k with
    | piped =>
        obtain ⟨first, inner, rfl, -⟩ := tight_of_mem_piped hs
        simp
    | method =>
        obtain ⟨first, inner, rfl, -⟩ := tight_of_mem_method hs
        simp
    | data =>
        obtain ⟨front, body, back, rfl, -⟩ := exists_core_of_mem_data hs
        simp
  rcases ht with ht | ht
  · exact ht (h.subset hbraces.1)
  · exact ht (h.subset hbraces.2)

/-- A text with one pair of braces in its middle has no other text in simple
braces in it. -/
theorem eq_of_isInfix_of_braced {u front body back : List Char} (hu : Braced u)
    (hfront : '}' ∉ front) (hbody : Unbraced body) (hback : '{' ∉ back)
    (h : u <:+: front ++ '{' :: (body ++ '}' :: back)) :
    u = '{' :: (body ++ ['}']) := by
  obtain ⟨inner, rfl, hopen, hclose⟩ := hu
  obtain ⟨before, after, heq⟩ := h
  have hsame : ∀ {rest}, inner ++ '}' :: after = body ++ '}' :: rest →
      '{' :: (inner ++ ['}']) = '{' :: (body ++ ['}']) := by
    intro rest h
    rw [(Text.cons_eq_of_append_cons_eq h hbody.2 hclose).1]
  have heq : before ++ '{' :: (inner ++ '}' :: after) =
      front ++ '{' :: (body ++ '}' :: back) := by
    simpa using heq
  rcases List.append_eq_append_iff.mp heq with ⟨gap, rfl, hgap⟩ |
    ⟨gap, rfl, hgap⟩
  · cases gap with
    | nil => exact hsame (List.cons.inj hgap).2
    | cons c gap =>
        have hlater : inner ++ '}' :: after =
            gap ++ '{' :: (body ++ '}' :: back) :=
          (List.cons.inj hgap).2
        have hgapclose : '}' ∉ gap := fun hmem => hfront (by simp [hmem])
        obtain ⟨-, hbrace, -⟩ :=
          Text.cons_eq_of_append_cons_eq hlater hgapclose hopen
        exact absurd hbrace (by decide)
  · cases gap with
    | nil => exact hsame (List.cons.inj hgap).2.symm
    | cons c gap =>
        have hlater : body ++ '}' :: back =
            gap ++ '{' :: (inner ++ '}' :: after) :=
          (List.cons.inj hgap).2
        have hmem : '{' ∈ body ++ '}' :: back := by
          rw [hlater]
          simp
        simp [hbody.1, hback] at hmem

/-! ## All texts from brace to brace -/

/-- The text from an opening brace at the beginning of another text to the next
closing brace. -/
def tightAt? : List Char → Option (List Char)
  | '{' :: first :: rest =>
    let inner := rest.takeWhile fun c => c != '{' && c != '}'
    if rest[inner.length]? = some '}' then
      some ('{' :: first :: (inner ++ ['}']))
    else none
  | _ => none

/-- The texts in another one that go from an opening brace to the next closing
brace. -/
def tights (s : List Char) : List (List Char) :=
  s.tails.filterMap tightAt?

theorem Tight.mem_tights (hs : Tight s) (h : s <:+: t) : s ∈ tights t := by
  obtain ⟨front, back, rfl⟩ := h
  obtain ⟨first, inner, rfl, hopen, hclose⟩ := hs
  have hinner : ∀ c ∈ inner, (c != '{' && c != '}') = true := by
    intro c hc
    simpa using
      ⟨ne_of_mem_of_not_mem hc hopen, ne_of_mem_of_not_mem hc hclose⟩
  have htake : (inner ++ '}' :: back).takeWhile
      (fun c => c != '{' && c != '}') = inner :=
    Text.takeWhile_append_of_stops hinner (Text.stops_cons.mpr (by decide))
  have hat : tightAt? ('{' :: first :: (inner ++ '}' :: back)) =
      some ('{' :: first :: (inner ++ ['}'])) := by
    simp [tightAt?, htake]
  refine List.mem_filterMap.mpr ⟨_, (List.mem_tails _ _).mpr ?_, hat⟩
  exact ⟨front, by simp⟩

end Written
end Phrasebook

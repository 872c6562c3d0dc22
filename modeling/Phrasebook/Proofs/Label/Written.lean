import Mathlib
import Phrasebook.Label.Extract
import Phrasebook.Proofs.Text.Run

/-!
# The written forms of tokens

Each kind of token has a pattern, a regular expression. This module states the
patterns as formal languages, built by concatenation and repetition from classes
of characters, without the scanners. A pattern written `x+` is a character of
the class with a run behind it, and `x?` is nothing or `x`.
-/

open scoped Computability

abbrev TextLanguage := Language Char

namespace Phrasebook
namespace Written

/-! ## Building blocks -/

def exactly (s : List Char) : TextLanguage :=
  ({s} : Set (List Char))

def one (p : Char → Bool) : TextLanguage :=
  ({s | ∃ c, s = [c] ∧ p c = true} : Set (List Char))

def run (p : Char → Bool) : TextLanguage :=
  (one p)∗

def someRun (p : Char → Bool) : TextLanguage :=
  one p * run p

def optional (l : TextLanguage) : TextLanguage :=
  1 + l

def gap (allowed : Bool) : TextLanguage :=
  if allowed then run Text.isBlank else 1

/-- A key: its mark and a word, with blanks between them where they are
allowed. -/
def key (mark : List Char) (blanks : Bool) : TextLanguage :=
  exactly mark * gap blanks * someRun Unicode.isWord

def keys (mark : List Char) (blanks : Bool) : TextLanguage :=
  (key mark blanks)∗

/-! ## The patterns -/

/-- The opening brace and the short name, which begins with any character but
the low line, a colon or `stop`: `\{[^_:stop]\w*`. -/
def start (stop : Char) : TextLanguage :=
  exactly ['{'] * one (fun c => c != '_' && c != ':' && c != stop) *
    run Unicode.isWord

/-- Piped tokens: `\{[^_:|]\w*(:\w+)*(::\w+)*\s*\|\|?[^{^}]+\}`. -/
def piped : TextLanguage :=
  start '|' * keys [':'] false * keys [':', ':'] false * run Text.isBlank *
    (exactly ['|'] * optional (exactly ['|'])) * someRun Label.isParamChar *
      exactly ['}']

/-- Method tokens: `\{[^_:.]\w*(\.\w+)(:\w+)*(::\w+)*\}`. -/
def method : TextLanguage :=
  start '.' * key ['.'] false * keys [':'] false * keys [':', ':'] false *
    exactly ['}']

/-- Data tokens: `%?\{{1,2}\s*\w+\s*(:\s*\w+)*\s*(::\s*\w+)*\s*\}{1,2}`. -/
def data : TextLanguage :=
  optional (exactly ['%']) * (exactly ['{'] * optional (exactly ['{'])) *
    run Text.isBlank * someRun Unicode.isWord *
    run Text.isBlank * keys [':'] true *
    run Text.isBlank * keys [':', ':'] true *
    run Text.isBlank * (exactly ['}'] * optional (exactly ['}']))

/-- The pattern of a kind. -/
def ofKind : TokenKind → TextLanguage
  | .piped => piped
  | .method => method
  | .data => data

/-! ## Membership -/

variable {p : Char → Bool} {s : List Char}

@[simp] theorem mem_one : s ∈ one p ↔ ∃ c, s = [c] ∧ p c = true :=
  Iff.rfl

@[simp] theorem mem_run : s ∈ run p ↔ ∀ c ∈ s, p c = true := by
  rw [run, Language.mem_kstar]
  constructor
  · rintro ⟨parts, rfl, hparts⟩ c hc
    obtain ⟨part, hpart, hc⟩ := List.mem_flatten.mp hc
    obtain ⟨d, rfl, hd⟩ := hparts part hpart
    rwa [List.mem_singleton.mp hc]
  · intro h
    refine ⟨s.map fun c =>
      [c], by rw [← List.flatMap_def, List.flatMap_singleton'], ?_⟩
    intro part hpart
    obtain ⟨c, hc, rfl⟩ := List.mem_map.mp hpart
    exact ⟨c, rfl, h c hc⟩

@[simp] theorem mem_someRun : s ∈ someRun p ↔ s ≠ [] ∧ ∀ c ∈ s, p c = true := by
  rw [someRun, Language.mem_mul]
  constructor
  · rintro ⟨_, ⟨c, rfl, hc⟩, cs, hcs, rfl⟩
    exact ⟨by simp, List.forall_mem_cons.mpr ⟨hc, mem_run.mp hcs⟩⟩
  · rintro ⟨hne, h⟩
    obtain ⟨c, cs, rfl⟩ := List.exists_cons_of_ne_nil hne
    obtain ⟨hc, hcs⟩ := List.forall_mem_cons.mp h
    exact ⟨[c], ⟨c, rfl, hc⟩, cs, mem_run.mpr hcs, rfl⟩

@[simp] theorem mem_optional {l : TextLanguage} :
    s ∈ optional l ↔ s = [] ∨ s ∈ l :=
  Iff.rfl

theorem forall_isBlank_of_mem_gap {b : Bool} (h : s ∈ gap b) :
    ∀ c ∈ s, Text.isBlank c = true := by
  cases b with
  | false => rw [(Language.mem_one s).mp h]; simp
  | true => exact mem_run.mp h

theorem nil_mem_gap {b : Bool} : [] ∈ gap b := by
  cases b with
  | false => exact Language.nil_mem_one
  | true => exact mem_run.mpr (by simp)

theorem mem_key {mark : List Char} {b : Bool} :
    s ∈ key mark b ↔
      ∃ g ∈ gap b, ∃ w, (w ≠ [] ∧ ∀ c ∈ w, Unicode.isWord c = true) ∧
      s = mark ++ g ++ w := by
  rw [key, Language.mem_mul]
  constructor
  · rintro ⟨_, hmark, w, hw, rfl⟩
    obtain ⟨_, rfl, g, hg, rfl⟩ := Language.mem_mul.mp hmark
    exact ⟨g, hg, w, mem_someRun.mp hw, rfl⟩
  · rintro ⟨g, hg, w, hw, rfl⟩
    exact ⟨_, Language.append_mem_mul rfl hg, w, mem_someRun.mpr hw, rfl⟩

/-! ## Keys -/

section Keys

variable {mark : List Char} {b : Bool}

theorem nil_mem_keys : [] ∈ keys mark b :=
  Language.nil_mem_kstar _

theorem append_mem_keys {k ks : List Char} (hk : k ∈ key mark b)
    (hks : ks ∈ keys mark b) :
    k ++ ks ∈ keys mark b := by
  rw [keys, ← Language.one_add_self_mul_kstar_eq_kstar]
  exact .inr (Language.append_mem_mul hk hks)

theorem keys_induction {P : List Char → Prop} (nil : P [])
    (append : ∀ k ∈ key mark b, ∀ ks ∈ keys mark b, P ks → P (k ++ ks))
    (hs : s ∈ keys mark b) :
    P s := by
  obtain ⟨parts, rfl, hparts⟩ := Language.mem_kstar.mp hs
  induction parts with
  | nil => exact nil
  | cons k parts ih =>
      obtain ⟨hk, hrest⟩ := List.forall_mem_cons.mp hparts
      have hks : parts.flatten ∈ keys mark b := Language.join_mem_kstar hrest
      exact append k hk _ hks (ih hrest hks)

theorem eq_nil_or_key_append (hs : s ∈ keys mark b) :
    s = [] ∨ ∃ k ∈ key mark b, ∃ ks, s = k ++ ks := by
  refine keys_induction
    (P := fun s => s = [] ∨ ∃ k ∈ key mark b, ∃ ks, s = k ++ ks)
    (.inl rfl) ?_ hs
  intro k hk ks _ _
  exact .inr ⟨k, hk, ks, rfl⟩

theorem class_of_mem_keys (hs : s ∈ keys mark b) :
    ∀ c ∈ s, c ∈ mark ∨ Text.isBlank c = true ∨ Unicode.isWord c = true := by
  refine keys_induction
    (P := fun s => ∀ c ∈ s, c ∈ mark ∨ Text.isBlank c = true ∨
    Unicode.isWord c = true) (by simp) ?_ hs
  intro k hk ks _ ih c hc
  obtain ⟨g, hg, w, hw, rfl⟩ := mem_key.mp hk
  simp only [List.mem_append] at hc
  rcases hc with ((hc | hc) | hc) | hc
  · exact .inl hc
  · exact .inr (.inl (forall_isBlank_of_mem_gap hg c hc))
  · exact .inr (.inr (hw.2 c hc))
  · exact ih c hc

end Keys

/-! ## The parts of a token -/

/-- The texts of piped tokens. A second bar of the separator may as well be
taken for the first character of the parameters. -/
theorem mem_piped : s ∈ piped ↔ ∃ first name ks cs g params,
    (first ≠ '_' ∧ first ≠ ':' ∧ first ≠ '|') ∧
    (∀ c ∈ name, Unicode.isWord c = true) ∧
      ks ∈ keys [':'] false ∧ cs ∈ keys [':', ':'] false ∧
      (∀ c ∈ g, Text.isBlank c = true) ∧
      (params ≠ [] ∧ ∀ c ∈ params, Label.isParamChar c = true) ∧
      s = '{' :: first ::
        (name ++ (ks ++ (cs ++ (g ++ '|' :: (params ++ ['}']))))) := by
  simp only [piped, start, mul_assoc, Language.mem_mul]
  constructor
  · -- One nested pair for each factor of the pattern, from left to right.
    rintro ⟨_, rfl, _, ⟨_, ⟨first, rfl, hfirst⟩, _, ⟨name, hname, _,
      ⟨ks, hks, _, ⟨cs, hcs, _, ⟨g, hg, _, ⟨_, rfl, _, ⟨bar, hbar, _,
      ⟨params, hparams, _, rfl, rfl⟩, rfl⟩, rfl⟩, rfl⟩, rfl⟩, rfl⟩, rfl⟩, rfl⟩,
      rfl⟩
    refine ⟨first, name, ks, cs, g, bar ++ params,
      by simpa [and_assoc] using hfirst, mem_run.mp hname, hks, hcs,
      mem_run.mp hg, ?_, by simp⟩
    obtain ⟨hne, hparams⟩ := mem_someRun.mp hparams
    refine ⟨by simp [hne], ?_⟩
    intro c hc
    rcases List.mem_append.mp hc with hc | hc
    · rcases mem_optional.mp hbar with rfl | rfl
      · simp at hc
      · rw [List.mem_singleton.mp hc]
        decide
    · exact hparams c hc
  · rintro ⟨first, name, ks, cs, g, params, hfirst, hname, hks, hcs, hg,
      hparams, rfl⟩
    exact ⟨_, rfl, _, ⟨[first], ⟨first, rfl, by simpa [and_assoc] using hfirst⟩,
      _, ⟨name, mem_run.mpr hname, _, ⟨ks, hks, _, ⟨cs, hcs, _,
      ⟨g, mem_run.mpr hg, _, ⟨_, rfl, _, ⟨[], .inl rfl, _,
      ⟨params, mem_someRun.mpr hparams, _, rfl, rfl⟩, rfl⟩, rfl⟩, rfl⟩, rfl⟩,
      rfl⟩, rfl⟩, rfl⟩, rfl⟩

theorem mem_method : s ∈ method ↔ ∃ first name k ks cs,
    (first ≠ '_' ∧ first ≠ ':' ∧ first ≠ '.') ∧
    (∀ c ∈ name, Unicode.isWord c = true) ∧
      k ∈ key ['.'] false ∧ ks ∈ keys [':'] false ∧ cs ∈ keys [':', ':'] false ∧
      s = '{' :: first :: (name ++ (k ++ (ks ++ (cs ++ ['}'])))) := by
  simp only [method, start, mul_assoc, Language.mem_mul]
  constructor
  · rintro ⟨_, rfl, _, ⟨_, ⟨first, rfl, hfirst⟩, _, ⟨name, hname, _, ⟨k, hk, _,
      ⟨ks, hks, _, ⟨cs, hcs, _, rfl, rfl⟩, rfl⟩, rfl⟩, rfl⟩, rfl⟩, rfl⟩
    exact ⟨first, name, k, ks, cs, by simpa [and_assoc] using hfirst,
      mem_run.mp hname, hk, hks, hcs, by simp⟩
  · rintro ⟨first, name, k, ks, cs, hfirst, hname, hk, hks, hcs, rfl⟩
    exact ⟨_, rfl, _, ⟨[first], ⟨first, rfl, by simpa [and_assoc] using hfirst⟩,
      _, ⟨name, mem_run.mpr hname, _, ⟨k, hk, _, ⟨ks, hks, _,
      ⟨cs, hcs, _, rfl, rfl⟩, rfl⟩, rfl⟩, rfl⟩, rfl⟩, rfl⟩

/-- The text has an opening brace as its first character only, and a closing one
as its last only. -/
def Braced (s : List Char) : Prop :=
  ∃ inner, s = '{' :: (inner ++ ['}']) ∧ '{' ∉ inner ∧ '}' ∉ inner

def Unbraced (s : List Char) : Prop :=
  '{' ∉ s ∧ '}' ∉ s

theorem Braced.head {c : Char} (h : Braced (c :: s)) : c = '{' ∧ '{' ∉ s := by
  obtain ⟨inner, hs, hopen, -⟩ := h
  obtain ⟨rfl, rfl⟩ := List.cons.inj hs
  exact ⟨rfl, by simpa using hopen⟩

theorem Braced.last {c : Char} (h : Braced (s ++ [c])) : c = '}' ∧ '}' ∉ s := by
  obtain ⟨inner, hs, -, hclose⟩ := h
  rw [← List.cons_append] at hs
  obtain ⟨rfl, hc⟩ := List.append_inj' hs rfl
  exact ⟨List.singleton_inj.mp hc, by simpa using hclose⟩

/-- The texts of data tokens in simple braces. Blanks stand at four places,
around the name and around each group of keys. -/
theorem mem_data_of_braced (hbraced : Braced s) :
    s ∈ data ↔ ∃ g₁ w g₂ ks g₃ cs g₄,
    (∀ c ∈ g₁ ++ g₂ ++ g₃ ++ g₄, Text.isBlank c = true) ∧
      (w ≠ [] ∧ ∀ c ∈ w, Unicode.isWord c = true) ∧
      ks ∈ keys [':'] true ∧ cs ∈ keys [':', ':'] true ∧
      s =
        '{' ::
        (g₁ ++ (w ++ (g₂ ++ (ks ++ (g₃ ++ (cs ++ (g₄ ++ ['}']))))))) := by
  simp only [data, mul_assoc, Language.mem_mul]
  constructor
  · rintro ⟨percent, hpercent, _, ⟨_, rfl, _, ⟨second, hsecond, _, ⟨g₁, hg₁, _,
      ⟨w, hw, _, ⟨g₂, hg₂, _, ⟨ks, hks, _, ⟨g₃, hg₃, _, ⟨cs, hcs, _,
      ⟨g₄, hg₄, _, ⟨_, rfl, last, hlast, rfl⟩, rfl⟩, rfl⟩, rfl⟩, rfl⟩, rfl⟩,
      rfl⟩, rfl⟩, rfl⟩, rfl⟩, rfl⟩
    obtain rfl : percent = [] := by
      rcases mem_optional.mp hpercent with rfl | rfl
      · rfl
      · exact absurd hbraced.head.1 (by decide)
    obtain rfl : second = [] := by
      rcases mem_optional.mp hsecond with rfl | rfl
      · rfl
      · exact absurd hbraced.head.2 (by simp)
    obtain rfl : last = [] := by
      rcases mem_optional.mp hlast with rfl | rfl
      · rfl
      · have hend : Braced
            ('{' :: (g₁ ++ (w ++ (g₂ ++ (ks ++ (g₃ ++ (cs ++ (g₄ ++ ['}'])))))))
            ++ ['}']) := by
          simpa using hbraced
        exact absurd hend.last.2 (by simp)
    refine ⟨g₁, w, g₂, ks, g₃, cs, g₄, ?_, mem_someRun.mp hw, hks, hcs, by simp⟩
    simp only [List.mem_append]
    rintro c (((hc | hc) | hc) | hc)
    · exact mem_run.mp hg₁ c hc
    · exact mem_run.mp hg₂ c hc
    · exact mem_run.mp hg₃ c hc
    · exact mem_run.mp hg₄ c hc
  · rintro ⟨g₁, w, g₂, ks, g₃, cs, g₄, hg, hw, hks, hcs, rfl⟩
    simp only [List.mem_append] at hg
    have hg₁ : g₁ ∈ run Text.isBlank :=
      mem_run.mpr fun c hc => hg c (.inl (.inl (.inl hc)))
    have hg₂ : g₂ ∈ run Text.isBlank :=
      mem_run.mpr fun c hc => hg c (.inl (.inl (.inr hc)))
    have hg₃ : g₃ ∈ run Text.isBlank :=
      mem_run.mpr fun c hc => hg c (.inl (.inr hc))
    have hg₄ : g₄ ∈ run Text.isBlank := mem_run.mpr fun c hc => hg c (.inr hc)
    exact ⟨[], .inl rfl, _, ⟨_, rfl, _, ⟨[], .inl rfl, _, ⟨g₁, hg₁, _,
      ⟨w, mem_someRun.mpr hw, _, ⟨g₂, hg₂, _, ⟨ks, hks, _, ⟨g₃, hg₃, _,
      ⟨cs, hcs, _, ⟨g₄, hg₄, _, ⟨_, rfl, [], .inl rfl, rfl⟩, rfl⟩, rfl⟩, rfl⟩,
      rfl⟩, rfl⟩, rfl⟩, rfl⟩, rfl⟩, rfl⟩, rfl⟩

end Written
end Phrasebook

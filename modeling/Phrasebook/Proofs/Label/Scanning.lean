import Phrasebook.Proofs.Label.Kinds
import Phrasebook.Proofs.Text.Splitting

/-!
# The scanners find what is written

Each scanner is compared with the pattern of its kind. A scanner never goes
back, and it need not: behind each part of a token stands a character that
cannot belong to the part. For piped and method tokens the scanner finds exactly
the beginnings that the pattern allows. A data token may end in two closing
braces, so one in simple braces is found when no further closing brace follows.
-/

namespace Phrasebook
namespace Label

open Text
    (Stops stops_nil stops_cons trimLeft_append trimLeft_eq_self
      exists_trimLeft)
open Written

/-! ## Classes of characters -/

def blankCodes : List Nat :=
  [9, 10, 11, 12, 13, 32, 0x85, 0xA0, 0x1680, 0x2000, 0x2001, 0x2002, 0x2003,
    0x2004, 0x2005, 0x2006, 0x2007, 0x2008, 0x2009, 0x200A, 0x2028, 0x2029,
    0x202F, 0x205F, 0x3000]

theorem toNat_mem_blankCodes {c : Char} (h : Text.isBlank c = true) :
    c.toNat ∈ blankCodes := by
  simp only [Text.isBlank, Bool.or_eq_true, Bool.and_eq_true, decide_eq_true_eq,
    beq_iff_eq] at h
  simp only [blankCodes, List.mem_cons, List.not_mem_nil]
  omega

theorem isWord_eq_false_of_isBlank {c : Char} (h : Text.isBlank c = true) :
    Unicode.isWord c = false := by
  have hword : ∀ n ∈ blankCodes, Unicode.isWord (Char.ofNat n) = false := by
    decide +kernel
  simpa using hword c.toNat (toNat_mem_blankCodes h)

theorem isBlank_eq_false_of_isWord {c : Char} (h : Unicode.isWord c = true) :
    Text.isBlank c = false := by
  by_contra hblank
  rw [isWord_eq_false_of_isBlank (by simpa using hblank)] at h
  exact Bool.noConfusion h

theorem stops_isWord_of_isBlank {g : List Char}
    (hg : ∀ c ∈ g, Text.isBlank c = true) :
    Stops Unicode.isWord g :=
  Text.stops_of_forall fun c hc => isWord_eq_false_of_isBlank (hg c hc)

/-! ## Exact beginnings and words -/

variable {mark s rest : List Char} {b : Bool}

theorem behind?_eq_some_iff :
    behind? mark s = some rest ↔ s = mark ++ rest := by
  unfold behind?
  constructor
  · intro h
    split at h
    · rename_i hprefix
      obtain ⟨tail, rfl⟩ := List.isPrefixOf_iff_prefix.mp hprefix
      simpa using h
    · simp at h
  · rintro rfl
    simp

theorem behind?_append : behind? mark (mark ++ rest) = some rest :=
  behind?_eq_some_iff.mpr rfl

theorem behind?_of_stops {c : Char} (hs : Stops (· == c) s) :
    behind? (c :: mark) s = none := by
  cases s with
  | nil => rfl
  | cons d s =>
      have hne : c ≠ d := by
        rintro rfl
        simpa using stops_cons.mp hs
      simp [behind?, hne]

theorem behind?_cons_of_ne {c d : Char} (h : d ≠ c) :
    behind? (c :: mark) (d :: s) = none :=
  behind?_of_stops (stops_cons.mpr (by simpa using h))

theorem behindWord?_append {w : List Char} (hne : w ≠ [])
    (hw : ∀ c ∈ w, Unicode.isWord c = true)
    (hrest : Stops Unicode.isWord rest) :
    behindWord? (w ++ rest) = some rest := by
  obtain ⟨c, w, rfl⟩ := List.exists_cons_of_ne_nil hne
  obtain ⟨hc, hw⟩ := List.forall_mem_cons.mp hw
  rw [List.cons_append, behindWord?, if_pos hc,
    Text.dropWhile_append_of_stops hw hrest]

theorem behindWord?_cons_of_not_word {c : Char} (h : Unicode.isWord c = false) :
    behindWord? (c :: s) = none := by
  simp [behindWord?, h]

theorem behindWord?_sound (h : behindWord? s = some rest) :
    ∃ w, (w ≠ [] ∧ ∀ c ∈ w, Unicode.isWord c = true) ∧ s = w ++ rest := by
  cases s with
  | nil => simp [behindWord?] at h
  | cons c s =>
      rw [behindWord?] at h
      split at h
      · rename_i hc
        obtain rfl := Option.some.inj h
        refine ⟨c :: s.takeWhile Unicode.isWord, ⟨by simp, ?_⟩, by simp⟩
        exact List.forall_mem_cons.mpr ⟨hc, fun _ => List.mem_takeWhile_imp⟩
      · simp at h

/-! ## Keys -/

theorem behindKey?_append {k : List Char} (hk : k ∈ key mark b)
    (hrest : Stops Unicode.isWord rest) :
    behindKey? mark b (k ++ rest) = some rest := by
  obtain ⟨g, hg, w, ⟨hne, hw⟩, rfl⟩ := mem_key.mp hk
  have hblank : Stops Text.isBlank (w ++ rest) := by
    obtain ⟨c, w, rfl⟩ := List.exists_cons_of_ne_nil hne
    exact stops_cons.mpr (isBlank_eq_false_of_isWord (hw c (by simp)))
  have hgap :
      (if b then Text.trimLeft (g ++ (w ++ rest)) else g ++ (w ++ rest)) =
        w ++ rest := by
    cases b with
    | false =>
        rw [(Language.mem_one g).mp hg]
        rfl
    | true =>
        exact (trimLeft_append (mem_run.mp hg)).trans (trimLeft_eq_self hblank)
  rw [List.append_assoc, List.append_assoc, behindKey?, behind?_append,
    Option.bind_some, hgap, behindWord?_append hne hw hrest]

theorem behindKey?_sound (h : behindKey? mark b s = some rest) :
    ∃ k ∈ key mark b, s = k ++ rest := by
  obtain ⟨tail, hmark, hword⟩ := Option.bind_eq_some_iff.mp h
  obtain rfl := behind?_eq_some_iff.mp hmark
  obtain ⟨w, hw, htail⟩ := behindWord?_sound hword
  cases b with
  | false =>
      obtain rfl : tail = w ++ rest := htail
      exact ⟨mark ++ [] ++ w, mem_key.mpr ⟨[], rfl, w, hw, rfl⟩, by simp⟩
  | true =>
      obtain ⟨g, hg, hgap⟩ := exists_trimLeft tail
      have htrim : Text.trimLeft tail = w ++ rest := htail
      rw [htrim] at hgap
      exact ⟨mark ++ g ++ w,
        mem_key.mpr ⟨g, mem_run.mpr hg, w, hw, rfl⟩, by simp [hgap]⟩

theorem behindKey?_of_stops {c : Char} (hs : Stops (· == c) s) :
    behindKey? (c :: mark) b s = none := by
  rw [behindKey?, behind?_of_stops hs, Option.bind_none]

theorem behindKey?_single_of_double {k : List Char} {b' : Bool}
    (hk : k ∈ key [':', ':'] b') :
    behindKey? [':'] b (k ++ rest) = none := by
  obtain ⟨g, -, w, -, rfl⟩ := mem_key.mp hk
  have hcolon : ∀ tail,
      behindWord? (if b then Text.trimLeft (':' :: tail) else ':' :: tail) =
        none := by
    intro tail
    cases b with
    | false => exact behindWord?_cons_of_not_word (by decide)
    | true =>
        rw [if_pos rfl, Text.trimLeft_cons_of_not_blank (by decide)]
        exact behindWord?_cons_of_not_word (by decide)
  exact hcolon (g ++ w ++ rest)

private theorem behindKeysFrom_of_none (hstop : behindKey? mark b rest = none)
    (fuel : Nat) :
    behindKeysFrom mark b fuel rest = rest := by
  cases fuel with
  | zero => rfl
  | succ fuel => rw [behindKeysFrom, hstop]

theorem behindKeys_of_none (hstop : behindKey? mark b rest = none) :
    behindKeys mark b rest = rest :=
  behindKeysFrom_of_none hstop rest.length

theorem stops_isWord_of_mem_keys {ks : List Char}
    (hks : ks ∈ keys (':' :: mark) b) :
    Stops Unicode.isWord ks := by
  rcases eq_nil_or_key_append hks with rfl | ⟨k, hk, ks, rfl⟩
  · exact stops_nil
  · obtain ⟨g, -, w, -, rfl⟩ := mem_key.mp hk
    exact stops_cons.mpr (by decide)

/-- All keys are passed over, and no more. The length of a text is fuel enough,
as every key takes up a character. -/
theorem behindKeys_append {ks : List Char} (hks : ks ∈ keys (':' :: mark) b)
    (hrest : Stops Unicode.isWord rest)
    (hstop : behindKey? (':' :: mark) b rest = none) :
    behindKeys (':' :: mark) b (ks ++ rest) = rest := by
  have hfuel : ∀ fuel, ks.length ≤ fuel →
      behindKeysFrom (':' :: mark) b fuel (ks ++ rest) = rest := by
    refine keys_induction (P := fun ks => ∀ fuel, ks.length ≤ fuel →
      behindKeysFrom (':' :: mark) b fuel (ks ++ rest) = rest) ?_ ?_ hks
    · intro fuel _
      exact behindKeysFrom_of_none hstop fuel
    · intro k hk ks hks ih fuel hlength
      have hnext : Stops Unicode.isWord (ks ++ rest) :=
        (stops_isWord_of_mem_keys hks).append hrest
      have hpos : 0 < k.length := by
        obtain ⟨g, -, w, -, rfl⟩ := mem_key.mp hk
        simp
      rw [List.length_append] at hlength
      cases fuel with
      | zero => omega
      | succ fuel =>
          rw [List.append_assoc, behindKeysFrom, behindKey?_append hk hnext]
          exact ih fuel (by omega)
  exact hfuel _ (by simp)

theorem exists_keys_append (mark : List Char) (b : Bool) (s : List Char) :
    ∃ ks ∈ keys mark b, s = ks ++ behindKeys mark b s := by
  suffices hfuel :
      ∀ fuel s, ∃ ks ∈ keys mark b, s = ks ++ behindKeysFrom mark b fuel s from
    hfuel s.length s
  intro fuel
  induction fuel with
  | zero => exact fun s => ⟨[], nil_mem_keys, rfl⟩
  | succ fuel ih =>
      intro s
      rw [behindKeysFrom]
      split
      · rename_i rest hkey
        obtain ⟨k, hk, rfl⟩ := behindKey?_sound hkey
        obtain ⟨ks, hks, hrest⟩ := ih rest
        exact ⟨k ++ ks,
          append_mem_keys hk hks, by rw [List.append_assoc, ← hrest]⟩
      · exact ⟨[], nil_mem_keys, rfl⟩

/-- No key with a single colon begins where keys with double colons stand or
where they end. -/
theorem behindKey?_single_append {cs : List Char} {b' : Bool}
    (hcs : cs ∈ keys [':', ':'] b') (hstop : behindKey? [':'] b rest = none) :
    behindKey? [':'] b (cs ++ rest) = none := by
  rcases eq_nil_or_key_append hcs with rfl | ⟨k, hk, cs, rfl⟩
  · exact hstop
  · rw [List.append_assoc]
    exact behindKey?_single_of_double hk

theorem behindAllKeys_append {ks cs : List Char} (hks : ks ∈ keys [':'] false)
    (hcs : cs ∈ keys [':', ':'] false) (hrest : Stops Unicode.isWord rest)
    (hcolon : Stops (· == ':') rest) :
    behindAllKeys (ks ++ (cs ++ rest)) = rest := by
  have hnext : Stops Unicode.isWord (cs ++ rest) :=
    (stops_isWord_of_mem_keys hcs).append hrest
  have hstop :=
    behindKey?_single_append (b := false) hcs (behindKey?_of_stops hcolon)
  rw [behindAllKeys, behindKeys_append hks hnext hstop]
  exact behindKeys_append hcs hrest (behindKey?_of_stops hcolon)

theorem exists_allKeys_append (s : List Char) :
    ∃ ks ∈ keys [':'] false, ∃ cs ∈ keys [':', ':'] false,
      s = ks ++ (cs ++ behindAllKeys s) := by
  obtain ⟨ks, hks, hs⟩ := exists_keys_append [':'] false s
  obtain ⟨cs, hcs, hrest⟩ :=
    exists_keys_append [':', ':'] false (behindKeys [':'] false s)
  refine ⟨ks, hks, cs, hcs, ?_⟩
  rw [behindAllKeys, ← hrest]
  exact hs

/-! ## Piped and method tokens -/

theorem behindStart?_append {stop first : Char} {name : List Char}
    (hfirst : first ≠ '_' ∧ first ≠ ':' ∧ first ≠ stop)
    (hname : ∀ c ∈ name, Unicode.isWord c = true)
    (hrest : Stops Unicode.isWord rest) :
    behindStart? stop ('{' :: first :: (name ++ rest)) = some rest := by
  rw [behindStart?, if_neg (by simpa [and_assoc] using hfirst),
    Text.dropWhile_append_of_stops hname hrest]

theorem behindStart?_sound {stop : Char} (h : behindStart? stop s = some rest) :
    ∃ first name, (first ≠ '_' ∧ first ≠ ':' ∧ first ≠ stop) ∧
      (∀ c ∈ name, Unicode.isWord c = true) ∧
      s = '{' :: first :: (name ++ rest) := by
  unfold behindStart? at h
  split at h
  · rename_i first tail
    split at h
    · simp at h
    · rename_i hfirst
      obtain rfl := Option.some.inj h
      exact ⟨first, tail.takeWhile Unicode.isWord, by
        simpa [and_assoc] using hfirst,
        fun _ => List.mem_takeWhile_imp, by simp⟩
  · simp at h

theorem exists_params {params : List Char}
    (hne : ¬ (params.takeWhile isParamChar).isEmpty = true)
    (hend : behind? ['}'] (params.dropWhile isParamChar) = some rest) :
    ∃ run, (run ≠ [] ∧ ∀ c ∈ run, isParamChar c = true) ∧
      params = run ++ '}' :: rest := by
  refine ⟨params.takeWhile isParamChar,
    ⟨by simpa using hne, fun _ => List.mem_takeWhile_imp⟩, ?_⟩
  rw [← List.singleton_append, ← behind?_eq_some_iff.mp hend,
    List.takeWhile_append_dropWhile]

theorem behindPiped?_eq_some_iff :
    behindPiped? s = some rest ↔ ∃ t ∈ piped, s = t ++ rest := by
  constructor
  · intro h
    obtain ⟨tail, hstart, htail⟩ := Option.bind_eq_some_iff.mp h
    obtain ⟨params, hbar, hparams⟩ := Option.bind_eq_some_iff.mp htail
    split at hparams
    · simp at hparams
    · rename_i hne
      obtain ⟨first, name, hfirst, hname, hs⟩ := behindStart?_sound hstart
      obtain ⟨ks, hks, cs, hcs, hkeys⟩ := exists_allKeys_append tail
      obtain ⟨g, hg, hgap⟩ := exists_trimLeft (behindAllKeys tail)
      obtain ⟨run, hrun, hend⟩ := exists_params hne hparams
      refine ⟨_, mem_piped.mpr
        ⟨first, name, ks, cs, g, run, hfirst, hname, hks, hcs, hg, hrun,
        rfl⟩, ?_⟩
      rw [hs, hkeys, hgap, behind?_eq_some_iff.mp hbar, hend]
      simp
  · rintro ⟨t, ht, rfl⟩
    obtain ⟨first, name, ks, cs, g, params, hfirst, hname, hks, hcs, hg,
      ⟨hne, hparams⟩, rfl⟩ :=
      mem_piped.mp ht
    have hbar : Stops Unicode.isWord (g ++ '|' :: (params ++ '}' :: rest)) :=
      (stops_isWord_of_isBlank hg).append (stops_cons.mpr (by decide))
    have hcolon : Stops (· == ':') (g ++ '|' :: (params ++ '}' :: rest)) :=
      (Text.stops_beq_of_forall hg (by decide)).append
        (stops_cons.mpr (by decide))
    have hkeys : Stops Unicode.isWord
        (ks ++ (cs ++ (g ++ '|' :: (params ++ '}' :: rest)))) :=
      (stops_isWord_of_mem_keys hks).append
        ((stops_isWord_of_mem_keys hcs).append hbar)
    have hblank : Stops Text.isBlank ('|' :: (params ++ '}' :: rest)) :=
      stops_cons.mpr (by decide)
    have hend : Stops isParamChar ('}' :: rest) := stops_cons.mpr (by decide)
    have hopen : behind? ['|'] ('|' :: (params ++ '}' :: rest)) =
        some (params ++ '}' :: rest) :=
      behind?_append
    have hclose : behind? ['}'] ('}' :: rest) = some rest := behind?_append
    have hassoc :
        '{' :: first ::
          (name ++ (ks ++ (cs ++ (g ++ '|' :: (params ++ ['}']))))) ++ rest =
          '{' :: first ::
            (name ++
              (ks ++ (cs ++ (g ++ '|' :: (params ++ '}' :: rest))))) := by
      simp
    rw [hassoc, behindPiped?, behindStart?_append hfirst hname hkeys,
      Option.bind_eq_bind,
      Option.bind_some, behindAllKeys_append hks hcs hbar hcolon,
      trimLeft_append hg,
      trimLeft_eq_self hblank, hopen, Option.bind_some,
      Text.takeWhile_append_of_stops hparams hend,
      Text.dropWhile_append_of_stops hparams hend,
      if_neg (by simpa using hne), hclose]

theorem behindMethod?_eq_some_iff :
    behindMethod? s = some rest ↔ ∃ t ∈ method, s = t ++ rest := by
  constructor
  · intro h
    obtain ⟨tail, hstart, htail⟩ := Option.bind_eq_some_iff.mp h
    obtain ⟨after, hkey, hend⟩ := Option.bind_eq_some_iff.mp htail
    obtain ⟨first, name, hfirst, hname, hs⟩ := behindStart?_sound hstart
    obtain ⟨k, hk, hmember⟩ := behindKey?_sound hkey
    obtain ⟨ks, hks, cs, hcs, hkeys⟩ := exists_allKeys_append after
    refine ⟨_, mem_method.mpr
      ⟨first, name, k, ks, cs, hfirst, hname, hk, hks, hcs, rfl⟩, ?_⟩
    rw [hs, hmember, hkeys, behind?_eq_some_iff.mp hend]
    simp
  · rintro ⟨t, ht, rfl⟩
    obtain ⟨first, name, k, ks, cs, hfirst, hname, hk, hks, hcs, rfl⟩ :=
      mem_method.mp ht
    have hend : Stops Unicode.isWord ('}' :: rest) := stops_cons.mpr (by decide)
    have hcolon : Stops (· == ':') ('}' :: rest) := stops_cons.mpr (by decide)
    have hkeys : Stops Unicode.isWord (ks ++ (cs ++ '}' :: rest)) :=
      (stops_isWord_of_mem_keys hks).append
        ((stops_isWord_of_mem_keys hcs).append hend)
    have hpoint : Stops Unicode.isWord (k ++ (ks ++ (cs ++ '}' :: rest))) := by
      obtain ⟨g, -, w, -, rfl⟩ := mem_key.mp hk
      exact stops_cons.mpr (by decide)
    have hclose : behind? ['}'] ('}' :: rest) = some rest := behind?_append
    have hassoc : '{' :: first :: (name ++ (k ++ (ks ++ (cs ++ ['}'])))) ++
        rest =
        '{' :: first :: (name ++ (k ++ (ks ++ (cs ++ '}' :: rest)))) := by
      simp
    rw [hassoc, behindMethod?, behindStart?_append hfirst hname hpoint,
      Option.bind_eq_bind, Option.bind_some, behindKey?_append hk hkeys,
      Option.bind_some, behindAllKeys_append hks hcs hend hcolon, hclose]

/-! ## Data tokens -/

/-- Blanks before keys, and blanks before what stands behind them, are passed
over; if there are no keys, all blanks are passed over before the keys are
looked for. -/
theorem trimLeft_behindKeys_append {g ks : List Char}
    (hg : ∀ c ∈ g, Text.isBlank c = true)
    (hks : ks ∈ keys (':' :: mark) true) (hrest : Stops Unicode.isWord rest)
    (hstop : behindKey? (':' :: mark) true (Text.trimLeft rest) = none) :
    Text.trimLeft
      (behindKeys (':' :: mark) true (Text.trimLeft (g ++ (ks ++ rest)))) =
      Text.trimLeft rest := by
  have hidem : Text.trimLeft (Text.trimLeft rest) = Text.trimLeft rest :=
    trimLeft_eq_self (Text.stops_dropWhile rest)
  rw [trimLeft_append hg]
  rcases eq_nil_or_key_append hks with rfl | ⟨k, hk, tail, htail⟩
  · rw [List.nil_append, behindKeys_of_none hstop, hidem]
  · have hblank : Stops Text.isBlank (ks ++ rest) := by
      obtain ⟨g', -, w, -, rfl⟩ := mem_key.mp hk
      rw [htail]
      exact stops_cons.mpr (by decide)
    have hnone : behindKey? (':' :: mark) true rest = none := by
      cases rest with
      | nil => rfl
      | cons c rest =>
          by_cases hc : c = ':'
          · subst hc
            rwa [Text.trimLeft_cons_of_not_blank (by decide)] at hstop
          · exact behindKey?_of_stops (stops_cons.mpr (by simpa using hc))
    rw [trimLeft_eq_self hblank, behindKeys_append hks hrest hnone]

/-- Both groups of keys are passed over with all blanks, up to the closing
brace. -/
theorem trimLeft_behindKeys_behindKeys {g₂ ks g₃ cs g₄ : List Char}
    (hg₂ : ∀ c ∈ g₂, Text.isBlank c = true) (hks : ks ∈ keys [':'] true)
    (hg₃ : ∀ c ∈ g₃, Text.isBlank c = true) (hcs : cs ∈ keys [':', ':'] true)
    (hg₄ : ∀ c ∈ g₄, Text.isBlank c = true) :
    Text.trimLeft
      (behindKeys [':', ':'] true (Text.trimLeft (behindKeys [':'] true
      (Text.trimLeft (g₂ ++ (ks ++ (g₃ ++ (cs ++ (g₄ ++ '}' :: rest))))))))) =
        '}' :: rest := by
  have hclose : Text.trimLeft (g₄ ++ '}' :: rest) = '}' :: rest := by
    rw [trimLeft_append hg₄, trimLeft_eq_self (stops_cons.mpr (by decide))]
  have hnone : ∀ mark, behindKey? (':' :: mark) true ('}' :: rest) = none :=
    fun _ => behindKey?_of_stops (stops_cons.mpr (by decide))
  have hend : Stops Unicode.isWord (g₄ ++ '}' :: rest) :=
    (stops_isWord_of_isBlank hg₄).append (stops_cons.mpr (by decide))
  have hcases : Stops Unicode.isWord (g₃ ++ (cs ++ (g₄ ++ '}' :: rest))) :=
    (stops_isWord_of_isBlank hg₃).append
    ((stops_isWord_of_mem_keys hcs).append hend)
  have hstop :
      behindKey? [':'] true
        (Text.trimLeft (g₃ ++ (cs ++ (g₄ ++ '}' :: rest)))) = none := by
    rw [trimLeft_append hg₃]
    rcases eq_nil_or_key_append hcs with rfl | ⟨k, hk, tail, rfl⟩
    · rw [List.nil_append, hclose]
      exact hnone []
    · have hblank :
          Stops Text.isBlank (k ++ (tail ++ (g₄ ++ '}' :: rest))) := by
        obtain ⟨g, -, w, -, rfl⟩ := mem_key.mp hk
        exact stops_cons.mpr (by decide)
      rw [List.append_assoc, trimLeft_eq_self hblank]
      exact behindKey?_single_of_double hk
  rw [trimLeft_behindKeys_append hg₂ hks hcases hstop,
    trimLeft_behindKeys_append hg₃ hcs hend (by rw [hclose]; exact hnone _),
    hclose]

theorem behindOneOrTwo?_cons {c : Char} (hs : Stops (· == c) s) :
    behindOneOrTwo? c (c :: s) = some s := by
  have hone : behind? [c] (c :: s) = some s := behind?_append
  rw [behindOneOrTwo?, hone, Option.map_some, behind?_of_stops hs,
    Option.getD_none]

/-- The scanner finds a data token in simple braces, if no closing brace
follows. -/
theorem behindData?_append {t : List Char} (ht : t ∈ data) (hbraced : Braced t)
    (hrest : Stops (· == '}') rest) : behindData? (t ++ rest) = some rest := by
  obtain ⟨g₁, w, g₂, ks, g₃, cs, g₄, hg, ⟨hne, hw⟩, hks, hcs, rfl⟩ :=
    (mem_data_of_braced hbraced).mp ht
  simp only [List.mem_append] at hg
  have hg₁ : ∀ c ∈ g₁, Text.isBlank c = true :=
    fun c hc => hg c (.inl (.inl (.inl hc)))
  have hg₂ : ∀ c ∈ g₂, Text.isBlank c = true :=
    fun c hc => hg c (.inl (.inl (.inr hc)))
  have hg₃ : ∀ c ∈ g₃, Text.isBlank c = true :=
    fun c hc => hg c (.inl (.inr hc))
  have hg₄ : ∀ c ∈ g₄, Text.isBlank c = true := fun c hc => hg c (.inr hc)
  obtain ⟨tail, htail⟩ :
    ∃ tail, tail = g₂ ++ (ks ++ (g₃ ++ (cs ++ (g₄ ++ '}' :: rest)))) :=
    ⟨_, rfl⟩
  have hend : Stops Unicode.isWord tail := by
    rw [htail]
    exact (stops_isWord_of_isBlank hg₂).append <|
      (stops_isWord_of_mem_keys hks).append <|
      (stops_isWord_of_isBlank hg₃).append <|
        (stops_isWord_of_mem_keys hcs).append <|
      (stops_isWord_of_isBlank hg₄).append <| stops_cons.mpr (by decide)
  obtain ⟨c, w, rfl⟩ := List.exists_cons_of_ne_nil hne
  have hc : Unicode.isWord c = true := hw c (by simp)
  have hname : Stops (· == '{') (c :: w) :=
    Text.stops_beq_of_forall hw (by decide)
  have hopen : (c == '{') = false := by simpa using hname
  have hbrace : Stops (· == '{') (g₁ ++ (c :: w ++ tail)) :=
    (Text.stops_beq_of_forall hg₁ (by decide)).append (stops_cons.mpr hopen)
  have hpercent : behind? ['%'] ('{' :: (g₁ ++ (c :: w ++ tail))) = none :=
    behind?_cons_of_ne (by decide)
  have hblank : Stops Text.isBlank (c :: w ++ tail) :=
    stops_cons.mpr (isBlank_eq_false_of_isWord hc)
  have hassoc :
      '{' ::
      (g₁ ++ (c :: w ++ (g₂ ++ (ks ++ (g₃ ++ (cs ++ (g₄ ++ ['}']))))))) ++
      rest =
      '{' :: (g₁ ++ (c :: w ++ tail)) := by
    simp [htail]
  rw [hassoc, behindData?, hpercent, Option.getD_none,
    behindOneOrTwo?_cons hbrace, Option.bind_eq_bind, Option.bind_some,
    trimLeft_append hg₁, trimLeft_eq_self hblank,
    behindWord?_append hne hw hend, Option.bind_some]
  change behindOneOrTwo? '}'
    (Text.trimLeft (behindKeys [':', ':'] true (Text.trimLeft
    (behindKeys [':'] true (Text.trimLeft tail))))) = some rest
  rw [htail, trimLeft_behindKeys_behindKeys hg₂ hks hg₃ hcs hg₄,
    behindOneOrTwo?_cons hrest]

theorem behindOneOrTwo?_sound {c : Char} (h : behindOneOrTwo? c s = some rest) :
    ∃ m ∈ exactly [c] * optional (exactly [c]), s = m ++ rest := by
  obtain ⟨tail, hone, hrest⟩ := Option.map_eq_some_iff.mp h
  obtain rfl := behind?_eq_some_iff.mp hone
  cases htwo : behind? [c] tail with
  | none =>
      obtain rfl : tail = rest := by simpa [htwo] using hrest
      exact ⟨_, Language.append_mem_mul rfl
        (mem_optional.mpr (.inl rfl)), by simp⟩
  | some after =>
      obtain rfl : after = rest := by simpa [htwo] using hrest
      obtain rfl := behind?_eq_some_iff.mp htwo
      exact ⟨_, Language.append_mem_mul rfl
        (mem_optional.mpr (.inr rfl)), by simp⟩

/-- What the scanner takes up is a data token. -/
theorem behindData?_sound (h : behindData? s = some rest) :
    ∃ t ∈ data, s = t ++ rest := by
  obtain ⟨inner, hopen, hinner⟩ := Option.bind_eq_some_iff.mp h
  obtain ⟨after, hword, hclose⟩ := Option.bind_eq_some_iff.mp hinner
  obtain ⟨percent, hpercent, hs⟩ : ∃ p ∈ optional (exactly ['%']),
      s = p ++ (behind? ['%'] s).getD s := by
    cases hmark : behind? ['%'] s with
    | none => exact ⟨[], mem_optional.mpr (.inl rfl), rfl⟩
    | some tail =>
        exact ⟨['%'], mem_optional.mpr (.inr rfl), behind?_eq_some_iff.mp hmark⟩
  obtain ⟨braces, hbraces, hbraced⟩ := behindOneOrTwo?_sound hopen
  obtain ⟨w, hw, hname⟩ := behindWord?_sound hword
  obtain ⟨last, hlast, hend⟩ := behindOneOrTwo?_sound hclose
  obtain ⟨ks, hks, hkeys⟩ := exists_keys_append [':'] true (Text.trimLeft after)
  obtain ⟨cs, hcs, hcases⟩ := exists_keys_append [':', ':'] true
    (Text.trimLeft (behindKeys [':'] true (Text.trimLeft after)))
  obtain ⟨g₁, hg₁, hgap₁⟩ := exists_trimLeft inner
  obtain ⟨g₂, hg₂, hgap₂⟩ := exists_trimLeft after
  obtain ⟨g₃, hg₃, hgap₃⟩ :=
    exists_trimLeft (behindKeys [':'] true (Text.trimLeft after))
  obtain ⟨g₄, hg₄, hgap₄⟩ := exists_trimLeft (behindKeys [':', ':'] true
    (Text.trimLeft (behindKeys [':'] true (Text.trimLeft after))))
  refine ⟨percent ++ braces ++ g₁ ++ w ++ g₂ ++ ks ++ g₃ ++ cs ++ g₄ ++ last,
    ?_, ?_⟩
  · have hstart := Language.append_mem_mul hpercent hbraces
    have hword := Language.append_mem_mul
      (Language.append_mem_mul hstart (mem_run.mpr hg₁)) (mem_someRun.mpr hw)
    have hcontexts := Language.append_mem_mul
      (Language.append_mem_mul hword (mem_run.mpr hg₂)) hks
    have hall := Language.append_mem_mul
      (Language.append_mem_mul hcontexts (mem_run.mpr hg₃)) hcs
    exact Language.append_mem_mul
      (Language.append_mem_mul hall (mem_run.mpr hg₄)) hlast
  · simp only [List.append_assoc]
    rw [← hend, ← hgap₄, ← hcases, ← hgap₃, ← hkeys, ← hgap₂, ← hname, ← hgap₁,
      ← hbraced]
    exact hs

/-! ## All kinds -/

variable {k l : TokenKind} {t : List Char}

/-- What the scanner of a kind takes up is a token of the kind. -/
theorem behind?_sound (h : k.behind? s = some rest) :
    ∃ t ∈ ofKind k, s = t ++ rest := by
  cases k with
  | piped => exact behindPiped?_eq_some_iff.mp h
  | method => exact behindMethod?_eq_some_iff.mp h
  | data => exact behindData?_sound h

theorem behind?_append_of_mem (ht : t ∈ ofKind k) (hbraced : Braced t)
    (hrest : Stops (· == '}') rest) : k.behind? (t ++ rest) = some rest := by
  cases k with
  | piped => exact behindPiped?_eq_some_iff.mpr ⟨t, ht, rfl⟩
  | method => exact behindMethod?_eq_some_iff.mpr ⟨t, ht, rfl⟩
  | data => exact behindData?_append ht hbraced hrest

theorem behind?_append_of_before (h : Before k l) (ht : t ∈ ofKind l)
    (hbraced : Braced t) :
    k.behind? (t ++ rest) = none := by
  rw [Option.eq_none_iff_forall_ne_some]
  intro after hscan
  have hfound : ∃ u ∈ ofKind k, t ++ rest = u ++ after := by
    cases h with
    | piped_method => exact behindPiped?_eq_some_iff.mp hscan
    | piped_data => exact behindPiped?_eq_some_iff.mp hscan
    | method_data => exact behindMethod?_eq_some_iff.mp hscan
  obtain ⟨u, hu, heq⟩ := hfound
  exact h.append_ne hu ht hbraced after rest heq.symm

theorem behind?_cons_eq_none {c : Char} (hc : c ≠ '{')
    (hpercent : k = .data → c ≠ '%') :
    k.behind? (c :: s) = none := by
  have hstart : ∀ stop, behindStart? stop (c :: s) = none := by
    intro stop
    unfold behindStart?
    split
    · rename_i h
      exact absurd (List.cons.inj h).1 hc
    · rfl
  cases k with
  | piped =>
      change behindPiped? (c :: s) = none
      rw [behindPiped?, hstart, Option.bind_eq_bind, Option.bind_none]
  | method =>
      change behindMethod? (c :: s) = none
      rw [behindMethod?, hstart, Option.bind_eq_bind, Option.bind_none]
  | data =>
      have hone : behind? ['{'] (c :: s) = none := behind?_cons_of_ne hc
      have hno : behind? ['%'] (c :: s) = none :=
        behind?_cons_of_ne (hpercent rfl)
      change behindData? (c :: s) = none
      rw [behindData?, hno, Option.getD_none, behindOneOrTwo?, hone,
        Option.map_none, Option.bind_eq_bind, Option.bind_none]

/-- No token begins in a text without an opening brace. -/
theorem behind?_eq_none_of_notMem (h : '{' ∉ s) : k.behind? s = none := by
  cases s with
  | nil => cases k <;> rfl
  | cons c s =>
      obtain ⟨hne, hs⟩ : '{' ≠ c ∧ '{' ∉ s := by simpa using h
      by_cases hpercent : k = .data ∧ c = '%'
      · obtain ⟨rfl, rfl⟩ := hpercent
        have hstops : Stops (· == '{') s := by
          refine Text.stops_of_forall fun d hd => ?_
          simpa using ne_of_mem_of_not_mem hd hs
        have hbrace : behind? ['{'] s = none := behind?_of_stops hstops
        change behindData? ('%' :: s) = none
        rw [behindData?,
          show behind? ['%'] ('%' :: s) = some s from behind?_append,
          Option.getD_some, behindOneOrTwo?, hbrace, Option.map_none,
          Option.bind_eq_bind, Option.bind_none]
      · exact behind?_cons_eq_none hne.symm fun hk hc => hpercent ⟨hk, hc⟩

end Label
end Phrasebook

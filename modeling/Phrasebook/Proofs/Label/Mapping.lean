import Phrasebook.Label.Variant
import Phrasebook.Proofs.Label.Reading
import Phrasebook.Proofs.Number.Decimal
import Phrasebook.Proofs.Text.Template

/-!
# Filling mapping templates

A template of a token mapping is read once, from left to right: a placeholder
gives the parameter of its number, put through its cases one after the other,
and whatever stands between placeholders stays as it is. The text for a
placeholder is not read again, so it may look like a placeholder itself. One
placeholder that cannot be filled leaves nothing of the whole template.
-/

namespace Phrasebook

open Text (TemplatePart)
open Text.TemplatePart (written Clear Alternate)

/-! ## Placeholders -/

/-- A placeholder of a mapping template: the number of a parameter and the keys
of cases. -/
structure Slot where
  digits : List Char
  keys : List (List Char)
  digits_ne_nil : digits ≠ []
  isDigit_digits : ∀ c ∈ digits, c.isDigit = true
  fits : Nat.ofDigitChars 10 digits 0 < UInt64.size
  isWord_keys : ∀ k ∈ keys, IsWord k

namespace Slot

variable (slot : Slot) {s rest : List Char}

def index : Nat :=
  Nat.ofDigitChars 10 slot.digits 0

def chars : List Char :=
  '{' :: '$' :: (slot.digits ++ (keyChars [':', ':'] slot.keys ++ ['}']))

def fill : Fill :=
  .placeholder slot.digits slot.keys

theorem isWord_of_mem_nil : ∀ k ∈ ([] : List (List Char)), IsWord k := by
  simp

def ofNat (n : Nat) (h : n < UInt64.size) : Slot where
  digits := Integer.natDigits n
  keys := []
  digits_ne_nil := Integer.natDigits_ne_nil n
  isDigit_digits := fun _ => Integer.isDigit_of_mem_natDigits
  fits := by rwa [Integer.natDigits, Nat.ofDigitChars_ten_toDigits]
  isWord_keys := isWord_of_mem_nil

@[simp] theorem index_ofNat {n : Nat} (h : n < UInt64.size) :
    (ofNat n h).index = n :=
  Nat.ofDigitChars_ten_toDigits

theorem all_isDigit : slot.digits.all Char.isDigit = true :=
  List.all_eq_true.mpr slot.isDigit_digits

/-- The digits are read as the number. -/
theorem nat?_digits :
    (Integer.nat? slot.digits).filter (· < UInt64.size) = some slot.index := by
  rw [Integer.nat?_eq_ofDigitChars slot.digits_ne_nil slot.isDigit_digits]
  simpa [Option.filter, index] using slot.fits

theorem chars_append (rest : List Char) :
    slot.chars ++ rest =
      ['{', '$'] ++
        (slot.digits ++ (keyChars [':', ':'] slot.keys ++ '}' :: rest)) := by
  simp [chars]

theorem isDigit_of_ascii {c : Char} (h : c.isDigit = true) :
    Unicode.isDigit c = true := by
  have hrange : 48 ≤ c.toNat ∧ c.toNat ≤ 57 := Char.isDigit_iff_toNat.mp h
  rw [Unicode.isDigit, if_pos (by omega), h]

theorem stops_behind_digits (rest : List Char) :
    Text.Stops Unicode.isDigit
      (keyChars [':', ':'] slot.keys ++ '}' :: rest) := by
  refine Text.Stops.append ?_ (Text.stops_cons.mpr (by decide))
  cases slot.keys with
  | nil => exact Text.stops_nil
  | cons k ks => exact Text.stops_cons.mpr (by decide)

theorem splitChars_keys :
    (Text.splitChars [':', ':'] (keyChars [':', ':'] slot.keys)).filter
    (fun k => !k.isEmpty) =
      slot.keys := by
  have hsplit : Text.splitChars [':', ':'] (keyChars [':', ':'] slot.keys) =
      [] :: slot.keys :=
    @splitChars_double [] [] slot.keys (by simp) (by simp) slot.isWord_keys
  rw [hsplit, List.filter_cons_of_neg (by simp)]
  exact List.filter_eq_self.mpr fun k hk => by simp [(slot.isWord_keys k hk).1]

theorem placeholder?_chars_append (rest : List Char) :
    Fill.placeholder? (slot.chars ++ rest) = some (slot.fill, rest) := by
  have hdigit : ∀ c ∈ slot.digits, Unicode.isDigit c = true := fun c hc =>
    isDigit_of_ascii (slot.isDigit_digits c hc)
  have hstops := slot.stops_behind_digits rest
  have hempty : slot.digits.isEmpty = false := by simpa using slot.digits_ne_nil
  have hkeys : Label.behindKeys [':', ':'] false
      (keyChars [':', ':'] slot.keys ++ '}' :: rest) = '}' :: rest :=
    Label.behindKeys_append (keyChars_mem_keys slot.isWord_keys)
      (Text.stops_cons.mpr (by decide))
        (Label.behindKey?_of_stops (Text.stops_cons.mpr (by decide)))
  have hlength :
      (keyChars [':', ':'] slot.keys ++ '}' :: rest).length -
      ('}' :: rest).length =
      (keyChars [':', ':'] slot.keys).length := by
    simp
  have hclose : Label.behind? ['}'] ('}' :: rest) = some rest :=
    Label.behind?_eq_some_iff.mpr rfl
  rw [chars_append, Fill.placeholder?, Label.behind?_append]
  simp only [Option.bind_eq_bind, Option.bind_some, Option.pure_def,
    Text.takeWhile_append_of_stops hdigit hstops,
    Text.dropWhile_append_of_stops hdigit hstops, hempty, hkeys, hlength,
    hclose, List.take_left', splitChars_keys, fill, Bool.false_eq_true,
    if_false]

end Slot

/-! ## The parts of a template -/

namespace Fill

variable {s rest : List Char}

theorem placeholder?_of_not_isPrefix (h : ¬ ['{', '$'] <+: s) :
    placeholder? s = none := by
  have hopen : Label.behind? ['{', '$'] s = none := by
    rw [Label.behind?, if_neg (by simpa using h)]
  rw [placeholder?, hopen]
  rfl

theorem partsFrom_length_append (s rest : List Char) :
    partsFrom s.length (s ++ rest) = partsFrom 0 rest := by
  induction s with
  | nil => rfl
  | cons c s ih => exact ih

theorem partsFrom_slot_append (slot : Slot) (rest : List Char) :
    partsFrom 0 (slot.chars ++ rest) = slot.fill :: partsFrom 0 rest := by
  have hread := slot.placeholder?_chars_append rest
  obtain ⟨c, s, hchars⟩ : ∃ c s, slot.chars = c :: s := ⟨_, _, rfl⟩
  rw [hchars, List.cons_append] at hread ⊢
  have hlength : (s ++ rest).length - rest.length = s.length := by simp
  rw [partsFrom, hread]
  simp only [hlength, partsFrom_length_append]

theorem partsFrom_text_append
    (h : ∀ u, u <:+ s → u ≠ [] → ¬ ['{', '$'] <+: u ++ rest) :
    partsFrom 0 (s ++ rest) = s.map .text ++ partsFrom 0 rest := by
  induction s with
  | nil => rfl
  | cons c s ih =>
      have hhere : placeholder? (c :: (s ++ rest)) = none :=
        placeholder?_of_not_isPrefix (h (c :: s) List.suffix_rfl (by simp))
      have hlater :=
        ih fun u hu hne => h u (hu.trans (List.suffix_cons c s)) hne
      rw [List.cons_append, partsFrom, hhere, hlater]
      rfl

def ofPart : TemplatePart Slot → List Fill
  | .text s => s.map .text
  | .mark slot => [slot.fill]

theorem parts_written {ps : List (TemplatePart Slot)}
    (hclear : Clear (['{', '$'] <+: ·) Slot.chars ps) :
    parts (String.ofList (written Slot.chars ps)) = ps.flatMap ofPart := by
  rw [parts, String.toList_ofList]
  induction ps with
  | nil => rfl
  | cons p ps ih =>
      rw [TemplatePart.written_cons, List.flatMap_cons]
      cases p with
      | text s =>
          rw [TemplatePart.chars, partsFrom_text_append hclear.1, ih hclear.2]
          rfl
      | mark slot =>
          rw [TemplatePart.chars, partsFrom_slot_append, ih hclear]
          rfl

end Fill

/-! ## Filling -/

namespace Rendering

variable (r : Rendering) (s : Subject) (token : String) (params : List String)

/-- The text that the cases of the given keys make of a text, one after the
other. -/
def throughCases (keys : List (List Char)) (value : String) : String :=
  (keys.filterMap fun key => r.language.case? (String.ofList key)).foldl
    (fun value c => (c.apply (r.caseSetting (some s)) value).value) value

/-- Whether a placeholder can be filled: there is a parameter of its number, and
its keys are those of cases. -/
def CanFill (slot : Slot) : Prop :=
  slot.index < params.length ∧
    ∀ key ∈ slot.keys, (r.language.case? (String.ofList key)).isSome = true

/-- The text for a placeholder. -/
def slotText (slot : Slot) : List Char :=
  (r.throughCases s slot.keys (params.getD slot.index "")).toList

theorem value_inflect?_of_isSome {keys : List (List Char)}
    (h : ∀ key ∈ keys, (r.language.case? (String.ofList key)).isSome = true)
    (value : String) :
    (r.inflect? s token keys value).value =
      some (r.throughCases s keys value) := by
  induction keys generalizing value with
  | nil => rfl
  | cons key keys ih =>
      obtain ⟨hkey, hkeys⟩ := List.forall_mem_cons.mp h
      obtain ⟨c, hc⟩ := Option.isSome_iff_exists.mp hkey
      rw [inflect?, hc]
      simp [ih hkeys, throughCases, hc]

theorem value_inflect?_of_eq_none {keys : List (List Char)} {key : List Char}
    (hkey : key ∈ keys) (hnone : r.language.case? (String.ofList key) = none)
    (value : String) :
    (r.inflect? s token keys value).value = none := by
  induction keys generalizing value with
  | nil => simp at hkey
  | cons key' keys ih =>
      rw [inflect?]
      cases hc : r.language.case? (String.ofList key') with
      | none => rfl
      | some c =>
          have hlater : key ∈ keys := by
            rcases List.mem_cons.mp hkey with rfl | hmem
            · rw [hnone] at hc
              exact absurd hc (by simp)
            · exact hmem
          exact ih hlater _

theorem parameter?_of_getElem? (slot : Slot) {param : String}
    (h : params[slot.index]? = some param) :
    r.parameter? s token params slot.digits slot.keys =
      r.inflect? s token slot.keys param := by
  simp only [parameter?, slot.all_isDigit, slot.nat?_digits, h, if_true]

theorem value_parameter?_of_getElem?_eq_none (slot : Slot)
    (h : params[slot.index]? = none) :
    (r.parameter? s token params slot.digits slot.keys).value = none := by
  simp only [parameter?, slot.all_isDigit, slot.nat?_digits, h, if_true,
    Logged.value_bind, Logged.value_pure]

theorem value_parameter?_of_canFill {slot : Slot} (h : r.CanFill params slot) :
    (r.parameter? s token params slot.digits slot.keys).value =
      some (String.ofList (r.slotText s params slot)) := by
  obtain ⟨hindex, hkeys⟩ := h
  have hparam : params[slot.index]? = some (params.getD slot.index "") := by
    simp [List.getElem?_eq_getElem hindex]
  rw [r.parameter?_of_getElem? s token params slot hparam, slotText,
    String.ofList_toList]
  exact r.value_inflect?_of_isSome s token hkeys _

theorem value_parameter?_of_not_canFill {slot : Slot}
    (h : ¬ r.CanFill params slot) :
    (r.parameter? s token params slot.digits slot.keys).value = none := by
  cases hparam : params[slot.index]? with
  | none =>
      exact r.value_parameter?_of_getElem?_eq_none s token params slot hparam
  | some param =>
      rw [r.parameter?_of_getElem? s token params slot hparam]
      have hindex : slot.index < params.length :=
        (List.getElem?_eq_some_iff.mp hparam).1
      obtain ⟨key, hkey, hnone⟩ : ∃ key ∈ slot.keys,
          r.language.case? (String.ofList key) = none := by
        simpa [CanFill, hindex] using h
      exact r.value_inflect?_of_eq_none s token hkey hnone param

theorem value_fillParts?_text_append (cs : List Char) (fs : List Fill) :
    (r.fillParts? s token params (cs.map .text ++ fs)).value =
      (r.fillParts? s token params fs).value.map (String.ofList cs ++ ·) := by
  induction cs with
  | nil => simp
  | cons c cs ih =>
      rw [List.map_cons, List.cons_append, fillParts?, Logged.value_bind,
        Logged.value_pure, ih, Option.map_map]
      congr 1
      funext text
      simp [String.ofList_cons, String.append_assoc]

variable {ps : List (TemplatePart Slot)}

theorem value_fillParts?_of_canFill
    (h : ∀ slot, .mark slot ∈ ps → r.CanFill params slot) :
    (r.fillParts? s token params (ps.flatMap Fill.ofPart)).value =
      some (String.ofList (written (r.slotText s params) ps)) := by
  induction ps with
  | nil => rfl
  | cons p ps ih =>
      have hlater := ih fun slot hslot => h slot (List.mem_cons_of_mem p hslot)
      rw [List.flatMap_cons, TemplatePart.written_cons, String.ofList_append]
      cases p with
      | text t =>
          rw [Fill.ofPart, value_fillParts?_text_append, hlater]
          rfl
      | mark slot =>
          have hhere :=
            r.value_parameter?_of_canFill s token params
              (h slot List.mem_cons_self)
          rw [Fill.ofPart, Slot.fill, List.cons_append, List.nil_append,
            fillParts?, Logged.value_bind, hhere]
          simp only [Logged.value_bind, Logged.value_pure, hlater]
          rfl

theorem value_fillParts?_of_not_canFill {slot : Slot} (hslot : .mark slot ∈ ps)
    (h : ¬ r.CanFill params slot) :
    (r.fillParts? s token params (ps.flatMap Fill.ofPart)).value = none := by
  induction ps with
  | nil => simp at hslot
  | cons p ps ih =>
      rw [List.flatMap_cons]
      cases p with
      | text t =>
          have hlater := ih (by simpa using hslot)
          rw [Fill.ofPart, value_fillParts?_text_append, hlater,
            Option.map_none]
      | mark slot' =>
          rw [Fill.ofPart, Slot.fill, List.cons_append, List.nil_append,
            fillParts?, Logged.value_bind]
          by_cases hhere : r.CanFill params slot'
          · have hmem : .mark slot ∈ ps := by
              rcases List.mem_cons.mp hslot with heq | hmem
              · obtain rfl : slot = slot' := by simpa using heq
                exact absurd hhere h
              · exact hmem
            rw [r.value_parameter?_of_canFill s token params hhere]
            simp only [Logged.value_bind, Logged.value_pure, ih hmem]
            rfl
          · rw [r.value_parameter?_of_not_canFill s token params hhere]
            rfl

/-- A mapping template is filled in one pass, and as a whole or not at all.
Every placeholder gives the parameter of its number, put through its cases in
order, and this text is not read again; what stands between the placeholders
stays as it is. Where a parameter or a case is missing there is no text. -/
theorem value_fill?_written (halternate : Alternate ps)
    (htexts : ∀ t, .text t ∈ ps → ¬ ['{', '$'] <:+: t) :
    ((∀ slot, .mark slot ∈ ps → r.CanFill params slot) →
      (r.fill? s token params (String.ofList (written Slot.chars ps))).value =
        some (String.ofList (written (r.slotText s params) ps))) ∧
    ((∃ slot, .mark slot ∈ ps ∧ ¬ r.CanFill params slot) →
      (r.fill? s token params (String.ofList (written Slot.chars ps))).value =
        none) := by
  have hclear : Clear (['{', '$'] <+: ·) Slot.chars ps :=
    TemplatePart.clear_of_alternate (by decide) (fun _ => rfl) halternate htexts
  rw [fill?, Fill.parts_written hclear]
  constructor
  · exact r.value_fillParts?_of_canFill s token params
  · rintro ⟨slot, hslot, h⟩
    exact r.value_fillParts?_of_not_canFill s token params hslot h

def markedSlot : Slot where
  digits := ['1']
  keys := ["mark".toList]
  digits_ne_nil := by simp
  isDigit_digits := by simp
  fits := by simp [Nat.ofDigitChars_cons]
  isWord_keys := by simp [IsWord, Unicode.isWord, Unicode.isAsciiWord]

def paddedSlot : Slot where
  digits := ['0', '0']
  keys := []
  digits_ne_nil := by simp
  isDigit_digits := by simp
  fits := by simp [Nat.ofDigitChars_cons]
  isWord_keys := Slot.isWord_of_mem_nil

/-- A template with the second parameter, put through a case, in front of the
first. -/
def swapped : List (TemplatePart Slot) :=
  [.text ['{'], .mark markedSlot, .mark paddedSlot, .text " $".toList]

/-- A rendering with a case that makes a placeholder of every text. -/
def marking : Rendering where
  data := Table.empty
  language := (⟨"en", "English", [],
    [⟨"mark", "", "", "", .phrase,
      [⟨"all", "", "", "(= 1 1)", some "'{$0}'"⟩]⟩]⟩ : Language)
  decorator := Decorator.plain
  settings := Settings.standard
  options := Options.standard
  evaluator := Evaluator.standard default

/-- A placeholder that a case has made stays, and without a second parameter
there is no text. -/
theorem value_fill?_swapped :
    Alternate swapped ∧ (∀ t, .text t ∈ swapped → ¬ ['{', '$'] <:+: t) ∧
    String.ofList (written Slot.chars swapped) = "\x7b{$1::mark}{$00} $" ∧
    (marking.fill? (.value .null) "count" ["cat", "dog"]
      (String.ofList (written Slot.chars swapped))).value =
        some "\x7b{$0}cat $" ∧
    (marking.fill? (.value .null) "count" ["cat"]
      (String.ofList (written Slot.chars swapped))).value = none := by
  have halternate : Alternate swapped := by
    simp [Alternate, swapped]
  have htexts : ∀ t, .text t ∈ swapped → ¬ ['{', '$'] <:+: t := by
    simp [swapped]
    decide
  have hcase : (marking.language.case? "mark").isSome = true := by decide
  have htwo : ∀ slot, .mark slot ∈ swapped →
      marking.CanFill ["cat", "dog"] slot := by
    simp [swapped, CanFill, markedSlot, paddedSlot, Slot.index,
      Nat.ofDigitChars_cons, hcase]
  have hone : ∃ slot, .mark slot ∈ swapped ∧
      ¬ marking.CanFill ["cat"] slot := by
    refine ⟨markedSlot, by simp [swapped], ?_⟩
    simp [CanFill, markedSlot, Slot.index, Nat.ofDigitChars_cons]
  refine ⟨halternate, htexts, by decide, ?_, ?_⟩
  · rw [(marking.value_fill?_written (.value .null) "count"
      ["cat", "dog"] halternate htexts).1 htwo]
    decide +kernel
  · exact (marking.value_fill?_written (.value .null) "count"
      ["cat"] halternate htexts).2 hone

end Rendering
end Phrasebook

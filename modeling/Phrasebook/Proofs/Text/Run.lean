import Mathlib

/-!
# Runs of characters

Words, names, digits and gaps are longest runs of characters of a class. Such a
run is read back from a text exactly when what stands behind it does not
continue it, which is what `Stops` says of the text behind the run.
-/

namespace Phrasebook
namespace Text

/-- The text does not begin with a character of the class. -/
def Stops (p : Char → Bool) (s : List Char) : Prop :=
  ∀ c ∈ s.head?, p c = false

variable {p : Char → Bool}

@[simp] theorem stops_nil : Stops p [] := by
  simp [Stops]

@[simp] theorem stops_cons {c : Char} {s : List Char} :
    Stops p (c :: s) ↔ p c = false := by
  simp [Stops]

theorem stops_of_forall {s : List Char} (h : ∀ c ∈ s, p c = false) :
    Stops p s :=
  fun c hc => h c (List.mem_of_mem_head? hc)

/-- A run of a class does not begin with a character outside of the class. -/
theorem stops_beq_of_forall {d : Char} {s : List Char} (h : ∀ c ∈ s, p c = true)
    (hd : p d = false) : Stops (· == d) s := by
  refine stops_of_forall ?_
  intro c hc
  rw [beq_eq_false_iff_ne]
  rintro rfl
  rw [h c hc] at hd
  exact Bool.noConfusion hd

theorem stops_dropWhile (s : List Char) : Stops p (s.dropWhile p) := by
  intro c hc
  have hhead := List.head?_dropWhile_not p s
  rw [Option.mem_def.mp hc] at hhead
  exact hhead

theorem stops_iff_takeWhile_eq_nil {s : List Char} :
    Stops p s ↔ s.takeWhile p = [] := by
  cases s with
  | nil => simp
  | cons c s => simp [List.takeWhile_cons]

theorem Stops.of_isPrefix {s t : List Char} (h : Stops p t) (hst : s <+: t) :
    Stops p s := by
  obtain ⟨rest, rfl⟩ := hst
  cases s with
  | nil => exact stops_nil
  | cons c s => simpa using h

theorem Stops.append {s t : List Char} (hs : Stops p s) (ht : Stops p t) :
    Stops p (s ++ t) := by
  cases s with
  | nil => simpa using ht
  | cons c s => simpa using hs

theorem takeWhile_append_of_stops {run tail : List Char}
    (hrun : ∀ c ∈ run, p c = true) (htail : Stops p tail) :
    (run ++ tail).takeWhile p = run := by
  rw [List.takeWhile_append_of_pos hrun]
  cases tail with
  | nil => simp
  | cons c tail => simp [stops_cons.mp htail]

theorem dropWhile_append_of_stops {run tail : List Char}
    (hrun : ∀ c ∈ run, p c = true) (htail : Stops p tail) :
    (run ++ tail).dropWhile p = tail := by
  rw [List.dropWhile_append_of_pos hrun]
  cases tail with
  | nil => simp
  | cons c tail => simp [stops_cons.mp htail]

/-- Two ways to cut a text before a character agree if neither character stands
before the other's cut. -/
theorem cons_eq_of_append_cons_eq {a b : Char} {s t front back : List Char}
    (h : s ++ a :: front = t ++ b :: back) (ha : a ∉ t) (hb : b ∉ s) :
    s = t ∧ a = b ∧ front = back := by
  rcases List.append_eq_append_iff.mp h with ⟨gap, rfl, htail⟩ |
    ⟨gap, rfl, htail⟩
  · cases gap with
    | nil => simpa using htail
    | cons c gap =>
        obtain rfl : a = c := (List.cons.inj htail).1
        exact absurd (by simp) ha
  · cases gap with
    | nil => simpa [eq_comm] using htail
    | cons c gap =>
        obtain rfl : b = c := (List.cons.inj htail).1
        exact absurd (by simp) hb

end Text
end Phrasebook

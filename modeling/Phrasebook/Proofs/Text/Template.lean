import Mathlib

/-!
# Texts with placeholders

A template is made of texts and placeholders. What is looked for in it is found
at the placeholders and nowhere else if nothing of the kind begins in a text,
not even so that it would go on behind the text.
-/

namespace Phrasebook
namespace Text

/-- A part of a template: a text, or a placeholder. -/
inductive TemplatePart (α : Type) where
  | text (s : List Char)
  | mark (a : α)

namespace TemplatePart

variable {α : Type}

def chars (write : α → List Char) : TemplatePart α → List Char
  | text s => s
  | mark a => write a

def written (write : α → List Char) (ps : List (TemplatePart α)) : List Char :=
  ps.flatMap (chars write)

/-- Nothing for which `begins` holds begins in a text among the parts. -/
def Clear (begins : List Char → Prop) (write : α → List Char) :
    List (TemplatePart α) → Prop
  | [] => True
  | text s :: ps =>
    (∀ u, u <:+ s → u ≠ [] → ¬ begins (u ++ written write ps)) ∧
      Clear begins write ps
  | mark _ :: ps => Clear begins write ps

variable {begins : List Char → Prop} {write : α → List Char}
    {ps : List (TemplatePart α)}

@[simp] theorem written_nil : written write [] = [] :=
  rfl

@[simp] theorem written_cons (p : TemplatePart α) (ps : List (TemplatePart α)) :
    written write (p :: ps) = p.chars write ++ written write ps :=
  List.flatMap_cons

/-- A condition on the first character of what is looked for is met in no text
without it. -/
theorem clear_of_notMem {c : Char} (hbegins : ∀ s, begins s → s.head? = some c)
    (h : ∀ s, text s ∈ ps → c ∉ s) : Clear begins write ps := by
  induction ps with
  | nil => trivial
  | cons p ps ih =>
      have hlater := ih fun s hs => h s (List.mem_cons_of_mem p hs)
      cases p with
      | mark a => exact hlater
      | text s =>
          refine ⟨fun u hu hne hbegin => ?_, hlater⟩
          obtain ⟨d, u, rfl⟩ := List.exists_cons_of_ne_nil hne
          have hhead : d = c := by simpa using hbegins _ hbegin
          exact h s List.mem_cons_self (hu.subset (hhead ▸ List.mem_cons_self))

/-- Texts and placeholders take turns, as far as no two texts stand next to each
other. -/
def Alternate (ps : List (TemplatePart α)) : Prop :=
  ps.IsChain fun p q => ∀ s t, p = text s → q ≠ text t

/-- In an alternation two different characters stand next to each other only
within a text or where a placeholder begins, if every placeholder begins with
the first of them. -/
theorem clear_of_alternate {c d : Char} (hne : d ≠ c)
    (hwrite : ∀ a, (write a).head? = some c)
    (halternate : Alternate ps) (h : ∀ s, text s ∈ ps → ¬ [c, d] <:+: s) :
    Clear ([c, d] <+: ·) write ps := by
  induction ps with
  | nil => trivial
  | cons p ps ih =>
      obtain ⟨hnext, hrest⟩ := List.isChain_cons.mp halternate
      have hlater := ih hrest fun s hs => h s (List.mem_cons_of_mem p hs)
      cases p with
      | mark a => exact hlater
      | text s =>
          have hbehind : (written write ps).head? ≠ some d := by
            cases ps with
            | nil => simp
            | cons q ps =>
                cases q with
                | text t => exact absurd rfl (hnext (text t) rfl s t rfl)
                | mark a =>
                    obtain ⟨tail, htail⟩ := List.head?_eq_some_iff.mp (hwrite a)
                    simp [chars, htail, hne.symm]
          refine ⟨fun u hu hnonempty hbegin => ?_, hlater⟩
          obtain ⟨e, u, rfl⟩ := List.exists_cons_of_ne_nil hnonempty
          rw [List.cons_append, List.cons_prefix_cons] at hbegin
          obtain ⟨rfl, hsecond⟩ := hbegin
          cases u with
          | nil =>
              obtain ⟨tail, htail⟩ := hsecond
              exact hbehind (List.head?_eq_some_iff.mpr ⟨tail, htail.symm⟩)
          | cons e u =>
              obtain ⟨rfl, -⟩ := List.cons_prefix_cons.mp hsecond
              refine h s List.mem_cons_self (List.IsInfix.trans ?_ hu.isInfix)
              exact (List.prefix_append [c, d] u).isInfix

end TemplatePart
end Text
end Phrasebook

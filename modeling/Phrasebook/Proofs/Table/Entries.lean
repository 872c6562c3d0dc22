import Mathlib
import Phrasebook.Table

/-!
# Entries under distinct names

A table keeps the last entry under each name, and a search finds the first.
Where the names are distinct there is no difference, and the order of the
entries does not matter either.
-/

namespace Phrasebook
namespace Table

variable {α : Type} {entries entries' : List (String × α)} {name : String}
    {value : α}

theorem find?_append (entries entries' : List (String × α)) (name : String) :
    find? name (entries ++ entries') = (find? name entries).or
      (find? name entries') := by
  induction entries with
  | nil => rfl
  | cons entry entries ih =>
      obtain ⟨key, value⟩ := entry
      rw [List.cons_append, find?, find?]
      by_cases heq : key = name
      · rw [if_pos heq, if_pos heq]
        rfl
      · rw [if_neg heq, if_neg heq, ih]

theorem find?_of_mem (h : (entries.map Prod.fst).Nodup)
    (hmem : (name, value) ∈ entries) :
    find? name entries = some value := by
  obtain ⟨front, back, rfl⟩ := List.append_of_mem hmem
  have hfront : name ∉ front.map Prod.fst := by
    rw [List.map_append, List.nodup_append] at h
    intro hname
    exact h.2.2 name hname name (by simp) rfl
  rw [find?_append, find?_eq_none_of_notMem hfront, find?, if_pos rfl]
  rfl

theorem find?_perm (h : (entries.map Prod.fst).Nodup)
    (hperm : entries.Perm entries')
    (name : String) : find? name entries = find? name entries' := by
  have h' : (entries'.map Prod.fst).Nodup := (hperm.map Prod.fst).nodup h
  refine Option.ext fun value => ?_
  constructor
  · intro hfind
    exact find?_of_mem h' (hperm.subset (mem_of_find? hfind))
  · intro hfind
    exact find?_of_mem h (hperm.symm.subset (mem_of_find? hfind))

theorem get?_extend (h : (entries.map Prod.fst).Nodup) (t : Table α)
    (name : String) :
    (t.extend entries).get? name = (find? name entries).or (t.get? name) := by
  induction entries generalizing t with
  | nil => rfl
  | cons entry entries ih =>
      obtain ⟨key, value⟩ := entry
      obtain ⟨hkey, hrest⟩ := List.nodup_cons.mp h
      have hextend :
          t.extend ((key, value) :: entries) =
          (t.set key value).extend entries := rfl
      rw [hextend, ih hrest, get?_set, find?]
      by_cases heq : key = name
      · subst heq
        rw [find?_eq_none_of_notMem hkey, if_pos rfl, if_pos rfl]
        rfl
      · rw [if_neg heq, if_neg heq]

/-- Of entries under distinct names each is found. -/
theorem get?_ofList (h : (entries.map Prod.fst).Nodup) (name : String) :
    (ofList entries).get? name = find? name entries := by
  rw [ofList, get?_extend h, get?_empty, Option.or_none]

end Table
end Phrasebook

/-!
# Tables

A table gives at most one entry to each name. Its entries stand in the order in
which their names were first given one; a later entry under a name takes the
place of the earlier one.
-/

namespace Phrasebook

structure Table (α : Type) where
  entries : List (String × α)

namespace Table

variable {α : Type}

def empty : Table α :=
  ⟨[]⟩

instance : EmptyCollection (Table α) := ⟨empty⟩

instance : Inhabited (Table α) := ⟨empty⟩

def find? (name : String) : List (String × α) → Option α
  | [] => none
  | (key, value) :: rest => if key = name then some value else find? name rest

def get? (t : Table α) (name : String) : Option α :=
  find? name t.entries

def contains (t : Table α) (name : String) : Bool :=
  (t.get? name).isSome

/-- A list of entries with the one under `name` replaced, or with a new one at
the end. -/
def put (name : String) (value : α) : List (String × α) → List (String × α)
  | [] => [(name, value)]
  | (key, old) :: rest =>
    if key = name then (key, value) :: rest
    else (key, old) :: put name value rest

def set (t : Table α) (name : String) (value : α) : Table α :=
  ⟨put name value t.entries⟩

def erase (t : Table α) (name : String) : Table α :=
  ⟨t.entries.filter fun entry => entry.1 != name⟩

def extend (t : Table α) (entries : List (String × α)) : Table α :=
  entries.foldl (fun t entry => t.set entry.1 entry.2) t

/-- The table of the given entries, the last under each name. -/
def ofList (entries : List (String × α)) : Table α :=
  empty.extend entries

def names (t : Table α) : List String :=
  t.entries.map Prod.fst

def size (t : Table α) : Nat :=
  t.entries.length

def sorted (t : Table α) : List (String × α) :=
  t.entries.mergeSort fun a b => !decide (b.1 < a.1)

def map {β : Type} (f : α → β) (t : Table α) : Table β :=
  ⟨t.entries.map fun entry => (entry.1, f entry.2)⟩

@[simp] theorem get?_empty (name : String) :
    (empty : Table α).get? name = none := rfl

theorem find?_put (name key : String) (value : α)
    (entries : List (String × α)) :
    find? key (put name value entries) = if name = key then some value
      else find? key entries := by
  induction entries with
  | nil => simp [put, find?]
  | cons entry rest ih =>
    obtain ⟨k, old⟩ := entry
    by_cases hk : k = name
    · subst hk
      by_cases h : k = key <;> simp [put, find?, h]
    · by_cases h : k = key
      · subst h
        simp [put, find?, hk, Ne.symm hk]
      · simp [put, find?, hk, h, ih]

theorem get?_set (t : Table α) (name key : String) (value : α) :
    (t.set name value).get? key = if name = key then some value
      else t.get? key :=
  find?_put name key value t.entries

theorem find?_filter_ne (name key : String) (entries : List (String × α)) :
    find? key (entries.filter fun entry => entry.1 != name) =
      if key = name then none else find? key entries := by
  induction entries with
  | nil => simp [find?]
  | cons entry rest ih =>
    obtain ⟨k, old⟩ := entry
    by_cases hk : k = name
    · subst hk
      by_cases h : key = k
      · subst h
        simpa using ih
      · simp [find?, h, Ne.symm h, ih]
    · by_cases h : k = key
      · subst h
        simp [find?, hk]
      · simp [find?, hk, h, ih]

theorem get?_erase (t : Table α) (name key : String) :
    (t.erase name).get? key = if key = name then none else t.get? key :=
  find?_filter_ne name key t.entries

theorem find?_eq_none_of_notMem {entries : List (String × α)} {name : String}
    (h : name ∉ entries.map Prod.fst) : find? name entries = none := by
  induction entries with
  | nil => rfl
  | cons entry entries ih =>
      obtain ⟨key, value⟩ := entry
      obtain ⟨hne, hrest⟩ : name ≠ key ∧ name ∉ entries.map Prod.fst := by
        simpa using h
      rw [find?, if_neg hne.symm, ih hrest]

theorem mem_of_find? {entries : List (String × α)} {name : String} {value : α}
    (h : find? name entries = some value) : (name, value) ∈ entries := by
  induction entries with
  | nil => simp [find?] at h
  | cons entry entries ih =>
      obtain ⟨key, value'⟩ := entry
      rw [find?] at h
      split at h
      · rename_i hkey
        obtain rfl : value' = value := by simpa using h
        exact hkey ▸ List.mem_cons_self
      · exact List.mem_cons_of_mem _ (ih h)

end Table
end Phrasebook

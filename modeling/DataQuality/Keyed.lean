/-!
# Entries in order of their keys

A list of entries in strictly increasing order of their keys. Looking up a key after an insertion
gives the inserted value for that key and what was there before for every other one.
-/

namespace DataQuality.Keyed

variable {α : Type}

/-- Puts a value under a key, in place of the one that is there. -/
def insert (key : String) (value : α) : List (String × α) → List (String × α)
  | [] => [(key, value)]
  | (k, v) :: rest =>
      if key < k then (key, value) :: (k, v) :: rest
      else if key = k then (key, value) :: rest
      else (k, v) :: insert key value rest

def find? (key : String) : List (String × α) → Option α
  | [] => none
  | (k, v) :: rest => if key = k then some v else find? key rest

def has (key : String) (entries : List (String × α)) : Bool :=
  (find? key entries).isSome

/-- Puts together entries in any order; of several with one key the last counts. -/
def ofList (entries : List (String × α)) : List (String × α) :=
  entries.foldl (fun sorted entry => insert entry.1 entry.2 sorted) []

/-- Replaces the value under a key by a function of it. -/
def alter (key : String) (f : Option α → α) (entries : List (String × α)) : List (String × α) :=
  insert key (f (find? key entries)) entries

/-- Keys strictly increase. -/
def Sorted (entries : List (String × α)) : Prop :=
  entries.Pairwise fun a b => a.1 < b.1

/-- In sorted entries, a key before all of them is not there. -/
theorem find?_eq_none_of_lt {key : String} {entries : List (String × α)}
    (h : ∀ entry ∈ entries, key < entry.1) : find? key entries = none := by
  induction entries with
  | nil => rfl
  | cons entry rest ih =>
      obtain ⟨k, v⟩ := entry
      have hk : key < k := h (k, v) List.mem_cons_self
      have hne : key ≠ k := fun he => String.lt_irrefl k (he ▸ hk)
      simp only [find?, hne, if_false]
      exact ih fun entry hmem => h entry (List.mem_cons_of_mem _ hmem)

theorem find?_insert_self (key : String) (value : α) (entries : List (String × α)) :
    find? key (insert key value entries) = some value := by
  induction entries with
  | nil => simp [insert, find?]
  | cons entry rest ih =>
      obtain ⟨k, v⟩ := entry
      by_cases hlt : key < k
      · simp [insert, find?, hlt]
      · by_cases heq : key = k
        · subst heq
          simp [insert, find?]
        · simp [insert, find?, hlt, heq, ih]

theorem find?_insert_of_ne {key other : String} (hne : other ≠ key) (value : α)
    (entries : List (String × α)) :
    find? other (insert key value entries) = find? other entries := by
  induction entries with
  | nil => simp [insert, find?, hne]
  | cons entry rest ih =>
      obtain ⟨k, v⟩ := entry
      by_cases hlt : key < k
      · simp [insert, find?, hlt, hne]
      · by_cases heq : key = k
        · subst heq
          simp [insert, find?, hne]
        · simp only [insert, hlt, heq, if_false, find?, ih]

theorem find?_insert (key other : String) (value : α) (entries : List (String × α)) :
    find? other (insert key value entries) =
      if other = key then some value else find? other entries := by
  by_cases h : other = key
  · subst h
    simp [find?_insert_self]
  · simp [h, find?_insert_of_ne h]

end DataQuality.Keyed

import DataQuality.Keyed
import Mathlib.Data.List.Induction
import Mathlib.Data.List.Nodup

/-!
# Laws of keyed entries

An insertion keeps the order, so that entries built by insertions are sorted, and what is found
under a key is exactly what is listed under it.
-/

namespace DataQuality.Keyed

variable {α : Type}

theorem lt_of_not_lt_of_ne {a b : String} (hlt : ¬a < b) (hne : a ≠ b) : b < a := by
  by_cases h : b < a
  · exact h
  · exact absurd (String.le_antisymm (String.not_lt.mp h) (String.not_lt.mp hlt)) hne

theorem mem_insert {key : String} {value : α} {entry : String × α}
    {entries : List (String × α)} (h : entry ∈ insert key value entries) :
    entry = (key, value) ∨ entry ∈ entries := by
  induction entries with
  | nil => exact .inl (List.mem_singleton.mp h)
  | cons head rest ih =>
      obtain ⟨k, v⟩ := head
      simp only [insert] at h
      split at h
      next => exact List.mem_cons.mp h
      next =>
        split at h
        next => exact (List.mem_cons.mp h).imp_right (List.mem_cons_of_mem _)
        next =>
          rcases List.mem_cons.mp h with rfl | hrest
          · exact .inr List.mem_cons_self
          · exact (ih hrest).imp_right (List.mem_cons_of_mem _)

/-- An insertion keeps keys strictly increasing. -/
theorem sorted_insert {entries : List (String × α)} (h : Sorted entries) (key : String)
    (value : α) : Sorted (insert key value entries) := by
  induction entries with
  | nil => exact List.pairwise_singleton _ _
  | cons head rest ih =>
      obtain ⟨k, v⟩ := head
      obtain ⟨hhead, hrest⟩ := List.pairwise_cons.mp h
      simp only [insert]
      split
      next hlt =>
        -- before the head, and so before all that come after it
        refine List.pairwise_cons.mpr ⟨fun entry hentry => ?_, h⟩
        rcases List.mem_cons.mp hentry with rfl | hentry
        · exact hlt
        · exact String.lt_trans hlt (hhead entry hentry)
      next hlt =>
        split
        next heq =>
          subst heq
          exact List.pairwise_cons.mpr ⟨hhead, hrest⟩
        next hne =>
          -- behind the head: the new key is greater, as it is neither less nor equal
          refine List.pairwise_cons.mpr ⟨fun entry hentry => ?_, ih hrest⟩
          rcases mem_insert hentry with rfl | hentry
          · exact lt_of_not_lt_of_ne hlt hne
          · exact hhead entry hentry

theorem mem_of_find? {key : String} {value : α} {entries : List (String × α)}
    (h : find? key entries = some value) : (key, value) ∈ entries := by
  induction entries with
  | nil => cases h
  | cons head rest ih =>
      obtain ⟨k, v⟩ := head
      simp only [find?] at h
      split at h
      next heq =>
        subst heq
        cases h
        exact List.mem_cons_self
      next => exact List.mem_cons_of_mem _ (ih h)

/-- In sorted entries, what is listed under a key is what is found under it. -/
theorem mem_iff_find? {entries : List (String × α)} (h : Sorted entries) {key : String}
    {value : α} : (key, value) ∈ entries ↔ find? key entries = some value := by
  refine ⟨fun hmem => ?_, mem_of_find?⟩
  induction entries with
  | nil => cases hmem
  | cons head rest ih =>
      obtain ⟨k, v⟩ := head
      obtain ⟨hhead, hrest⟩ := List.pairwise_cons.mp h
      rcases List.mem_cons.mp hmem with heq | hmem
      · cases heq
        simp [find?]
      -- further down the keys are greater, so the search passes the head
      · have hlt : k < key := hhead (key, value) hmem
        have hne : key ≠ k := fun he => String.lt_irrefl k (he ▸ hlt)
        simp only [find?, hne, if_false]
        exact ih hrest hmem

theorem Sorted.nodup {entries : List (String × α)} (h : Sorted entries) :
    (entries.map (·.1)).Nodup := by
  refine List.pairwise_map.mpr (List.Pairwise.imp (fun {a b} hlt heq => ?_) h)
  rw [heq] at hlt
  exact String.lt_irrefl _ hlt

/-- Sorted entries are known by which entries there are. -/
theorem Sorted.ext {entries others : List (String × α)} (h : Sorted entries)
    (hothers : Sorted others) (hmem : ∀ entry, entry ∈ entries ↔ entry ∈ others) :
    entries = others := by
  have hperm : entries.Perm others :=
    (List.perm_ext_iff_of_nodup h.nodup.of_map hothers.nodup.of_map).mpr hmem
  apply hperm.eq_of_pairwise _ h hothers
  intro a b _ _ hlt hgt
  exact absurd (String.lt_trans hlt hgt) (String.lt_irrefl _)

theorem find?_eq_none_iff {key : String} {entries : List (String × α)} :
    find? key entries = none ↔ key ∉ entries.map (·.1) := by
  induction entries with
  | nil => exact ⟨fun _ => List.not_mem_nil, fun _ => rfl⟩
  | cons head rest ih =>
      obtain ⟨k, v⟩ := head
      by_cases h : key = k
      · simp [find?, h]
      · simp only [find?, h, if_false, ih, List.map_cons, List.mem_cons, false_or]

theorem find?_append (key : String) (entries others : List (String × α)) :
    find? key (entries ++ others) = (find? key entries).or (find? key others) := by
  induction entries with
  | nil => rfl
  | cons head rest ih =>
      obtain ⟨k, v⟩ := head
      by_cases h : key = k
      · simp [find?, h]
      · simp only [List.cons_append, find?, h, if_false, ih]

theorem find?_map {β : Type} (f : α → β) (key : String) (entries : List (String × α)) :
    find? key (entries.map fun entry => (entry.1, f entry.2)) = (find? key entries).map f := by
  induction entries with
  | nil => rfl
  | cons head rest ih =>
      obtain ⟨k, v⟩ := head
      by_cases h : key = k
      · simp [find?, h]
      · simp only [List.map_cons, find?, h, if_false, ih]

theorem ofList_append_singleton (entries : List (String × α)) (last : String × α) :
    ofList (entries ++ [last]) = insert last.1 last.2 (ofList entries) := by
  simp only [ofList, List.foldl_append, List.foldl_cons, List.foldl_nil]

theorem sorted_ofList (entries : List (String × α)) : Sorted (ofList entries) := by
  induction entries using List.reverseRecOn with
  | nil => exact List.Pairwise.nil
  | append_singleton entries last ih =>
      rw [ofList_append_singleton]
      exact sorted_insert ih last.1 last.2

/-- Of entries without repeated keys, putting them together loses none. -/
theorem find?_ofList {entries : List (String × α)} (h : (entries.map (·.1)).Nodup)
    (key : String) : find? key (ofList entries) = find? key entries := by
  induction entries using List.reverseRecOn with
  | nil => rfl
  | append_singleton entries last ih =>
      rw [List.map_append, List.nodup_append] at h
      rw [ofList_append_singleton, find?_insert, find?_append, ih h.1]
      by_cases heq : key = last.1
      -- the last entry is put in place of nothing, since its key is new
      · have hnone : find? key entries = none :=
          find?_eq_none_iff.mpr fun hmem => h.2.2 key hmem last.1 List.mem_cons_self heq
        rw [if_pos heq, hnone]
        simp [find?, heq]
      · rw [if_neg heq]
        simp [find?, heq]

theorem find?_alter (key other : String) (f : Option α → α) (entries : List (String × α)) :
    find? other (alter key f entries) =
      if other = key then some (f (find? key entries)) else find? other entries :=
  find?_insert key other _ entries

theorem sorted_alter {entries : List (String × α)} (h : Sorted entries) (key : String)
    (f : Option α → α) : Sorted (alter key f entries) :=
  sorted_insert h key _

end DataQuality.Keyed

import DataQuality.Proofs.Document.Record

/-!
# Reading untyped values back

A JSON value that is read without a type comes back in its sorted form, whatever it holds: members
of records in increasing order of their keys, and of several with one key only the last.
-/

namespace DataQuality

namespace Keyed

variable {α : Type}

theorem mem_of_mem_ofList {entries : List (String × α)} {entry : String × α}
    (h : entry ∈ ofList entries) : entry ∈ entries := by
  induction entries using List.reverseRecOn with
  | nil => exact h
  | append_singleton entries last ih =>
      rw [ofList_append_singleton] at h
      rcases mem_insert h with rfl | hmem
      · exact List.mem_append_right _ List.mem_cons_self
      · exact List.mem_append_left _ (ih hmem)

/-- A key that is greater than all others goes to the end. -/
theorem insert_of_lt {key : String} {entries : List (String × α)}
    (h : ∀ entry ∈ entries, entry.1 < key) (value : α) :
    insert key value entries = entries ++ [(key, value)] := by
  induction entries with
  | nil => rfl
  | cons head rest ih =>
      obtain ⟨k, v⟩ := head
      have hlt : k < key := h (k, v) List.mem_cons_self
      have hnot : ¬key < k := String.lt_asymm hlt
      have hne : key ≠ k := fun heq => String.lt_irrefl k (heq ▸ hlt)
      rw [insert, if_neg hnot, if_neg hne,
        ih fun entry hmem => h entry (List.mem_cons_of_mem _ hmem)]
      rfl

/-- Sorted entries are put together as they are. -/
theorem ofList_of_sorted {entries : List (String × α)} (h : Sorted entries) :
    ofList entries = entries := by
  induction entries using List.reverseRecOn with
  | nil => rfl
  | append_singleton entries last ih =>
      obtain ⟨hentries, -, hlast⟩ := List.pairwise_append.mp h
      have hgreatest : ∀ entry ∈ entries, entry.1 < last.1 :=
        fun entry hmem => hlast entry hmem last List.mem_cons_self
      rw [ofList_append_singleton, ih hentries, insert_of_lt hgreatest]

end Keyed

namespace Datum

theorem memberValues?_of_value? {entries : List (String × Json)}
    (h : ∀ entry ∈ entries, (ofSorted entry.2).value? = some entry.2) :
    memberValues? (ofSortedMembers entries) = some entries := by
  induction entries with
  | nil => rfl
  | cons head rest ih =>
      obtain ⟨key, value⟩ := head
      have hkey : (Datum.text key).text? = some key := rfl
      have hvalue : (ofSorted value).value? = some value := h (key, value) List.mem_cons_self
      rw [ofSortedMembers, memberValues?, hkey, hvalue,
        ih fun entry hmem => h entry (List.mem_cons_of_mem _ hmem)]

mutual

theorem value?_ofSorted_sorted : ∀ value : Json,
    (ofSorted value.sorted).value? = some value.sorted
  | .null => rfl
  | .bool _ => rfl
  | .int _ => rfl
  | .real _ => rfl
  | .string _ => rfl
  | .array items => by
      rw [Json.sorted, ofSorted, jsonList, value?, if_pos rfl, values?_sortedItems items]
      rfl
  | .object members => by
      -- what is sorted has only members that are, and sorting it again changes nothing
      have hmembers : memberValues? (ofSortedMembers (Keyed.ofList (Json.sortedMembers members))) =
          some (Keyed.ofList (Json.sortedMembers members)) :=
        memberValues?_of_value? fun entry hentry =>
          value?_of_mem_sortedMembers members entry (Keyed.mem_of_mem_ofList hentry)
      simp only [Json.sorted, ofSorted, jsonRecord, value?, if_true, hmembers, Option.map_some,
        Keyed.ofList_of_sorted (Keyed.sorted_ofList _)]

theorem values?_sortedItems : ∀ items : List Json,
    values? (ofSortedItems (Json.sortedItems items)) = some (Json.sortedItems items)
  | [] => rfl
  | item :: rest => by
      rw [Json.sortedItems, ofSortedItems, values?, value?_ofSorted_sorted item,
        values?_sortedItems rest]

theorem value?_of_mem_sortedMembers : ∀ (members : List (String × Json)),
    ∀ entry ∈ Json.sortedMembers members, (ofSorted entry.2).value? = some entry.2
  | [], _, h => absurd h List.not_mem_nil
  | (key, value) :: rest, entry, h => by
      rcases List.mem_cons.mp h with rfl | hrest
      · exact value?_ofSorted_sorted value
      · exact value?_of_mem_sortedMembers rest entry hrest

end

end Datum

namespace Decoder

/-- An untyped value is read back in its sorted form. -/
theorem value_ofJson (json : Json) : value (Datum.ofJson json) = .ok json.sorted := by
  have hvalue : (Datum.ofJson json).value? = some json.sorted := Datum.value?_ofSorted_sorted json
  rw [value, hvalue]

theorem list_value_ofJson (values : List Json) :
    list value (Datum.ofJson (.array values)) = .ok (values.map Json.sorted) := by
  rw [list_ofJson]
  induction values with
  | nil => rfl
  | cons json rest ih => simp only [List.map_cons, items, value_ofJson, ih]

end Decoder

end DataQuality

import DataQuality.Proofs.Document.Untyped

/-!
# Decoding again what was decoded

A decoder passes over members that it does not know, fills in defaults and takes several forms of
one value, so that what is written for a decoded value is seldom what was read. It is stable if
that makes no difference: what is written is decoded to the same value again. Typed values are
stable because they are read back in any case. Untyped ones are not, since they are sorted and
`null` counts as absent; but once decoded they are sorted, and there is no `null` among them.
-/

namespace DataQuality

namespace Json

/-! ## Sorting again -/

mutual

theorem sorted_sorted : ∀ value : Json, value.sorted.sorted = value.sorted
  | .null => rfl
  | .bool _ => rfl
  | .int _ => rfl
  | .real _ => rfl
  | .string _ => rfl
  | .array items => by rw [sorted, sorted, sortedItems_sortedItems items]
  | .object members => by
      have hentries : sortedMembers (Keyed.ofList (sortedMembers members)) =
          Keyed.ofList (sortedMembers members) := by
        rw [sortedMembers_eq_map]
        refine (List.map_congr_left fun entry hentry => ?_).trans (List.map_id _)
        have hvalue := sorted_of_mem_sortedMembers members entry (Keyed.mem_of_mem_ofList hentry)
        exact congrArg (Prod.mk entry.1) hvalue
      rw [sorted, sorted, hentries, Keyed.ofList_of_sorted (Keyed.sorted_ofList _)]

theorem sortedItems_sortedItems : ∀ items : List Json,
    sortedItems (sortedItems items) = sortedItems items
  | [] => rfl
  | item :: rest => by
      rw [sortedItems, sortedItems, sorted_sorted item, sortedItems_sortedItems rest]

theorem sorted_of_mem_sortedMembers : ∀ (members : List (String × Json)),
    ∀ entry ∈ sortedMembers members, entry.2.sorted = entry.2
  | [], _, h => absurd h List.not_mem_nil
  | (key, value) :: rest, entry, h => by
      rcases List.mem_cons.mp h with rfl | hrest
      · exact sorted_sorted value
      · exact sorted_of_mem_sortedMembers rest entry hrest

end

theorem sorted_ne_null {value : Json} (h : value ≠ .null) : value.sorted ≠ .null := by
  cases value with
  | null => exact absurd rfl h
  | _ => exact Json.noConfusion

end Json

namespace Datum

/-- The items of an array are data of JSON values. -/
theorem exists_of_mem_ofSortedItems {items : List Json} {datum : Datum}
    (h : datum ∈ ofSortedItems (Json.sortedItems items)) : ∃ value, datum = ofJson value := by
  rw [ofSortedItems_eq_map, Json.sortedItems_eq_map, List.map_map] at h
  obtain ⟨value, -, rfl⟩ := List.mem_map.mp h
  exact ⟨value, rfl⟩

/-- So are the members of an object. -/
theorem exists_of_mem_ofSortedMembers {members : List (String × Json)} {member : Datum × Datum}
    (h : member ∈ ofSortedMembers (Keyed.ofList (Json.sortedMembers members))) :
    ∃ value, member.2 = ofJson value := by
  rw [ofSortedMembers_eq_map] at h
  obtain ⟨entry, hentry, rfl⟩ := List.mem_map.mp h
  have hsorted := Json.sorted_of_mem_sortedMembers members entry (Keyed.mem_of_mem_ofList hentry)
  exact ⟨entry.2, congrArg ofSorted hsorted.symm⟩

/-- All but `null` is there. -/
theorem presence_ofJson {value : Json} (h : value ≠ .null) :
    (ofJson value).presence = .given := by
  cases value with
  | null => exact absurd rfl h
  | _ => rfl

end Datum

/-! ## Where fields come from -/

namespace Attempt

variable {α β : Type}

theorem map_eq_done_iff {f : α → β} {attempt : Attempt α} {b : β} :
    f <$> attempt = .done b ↔ ∃ a, attempt = .done a ∧ f a = b := by
  cases attempt with
  | done a => simp [Functor.map]
  | stopped o => simp [Functor.map]

theorem seq_eq_done_iff {attempt : Attempt (α → β)} {next : Attempt α} {b : β} :
    attempt <*> next = .done b ↔ ∃ f a, attempt = .done f ∧ next = .done a ∧ f a = b := by
  cases attempt <;> cases next <;> simp [Seq.seq, app]

end Attempt

namespace Fields

variable {α : Type} {names : List String} {fields : Fields} {name : String}

theorem mem_given_of_datum? {datum : Datum} (h : fields.datum? name = some datum) :
    ∃ entry ∈ fields.given, entry.2.2 = datum := by
  obtain ⟨⟨position, value⟩, hfind, rfl⟩ := Option.map_eq_some_iff.mp h
  obtain ⟨entry, hentry, hvalue⟩ := Option.map_eq_some_iff.mp hfind
  exact ⟨entry, List.mem_of_find?_eq_some hentry, congrArg Prod.snd hvalue⟩

theorem mem_given_add {key value : Datum} {entry : String × Nat × Datum}
    (h : entry ∈ (fields.add names key value).given) :
    entry ∈ fields.given ∨ entry.2.2 = value := by
  unfold add at h
  dsimp only at h
  split at h
  next => exact .inl h
  next =>
    split at h
    next =>
      split at h
      next => exact .inl h
      next =>
        rcases List.mem_append.mp h with hbefore | hlast
        · exact .inl hbefore
        · rw [List.mem_singleton.mp hlast]
          exact .inr rfl
    next => split at h <;> exact .inl h

/-- What a record gives are values of its members. -/
theorem mem_given_ofMembers {members : List (Datum × Datum)} {entry : String × Nat × Datum}
    (h : entry ∈ (ofMembers names members).given) :
    ∃ member ∈ members, member.2 = entry.2.2 := by
  induction members using List.reverseRecOn with
  | nil => cases h
  | append_singleton members last ih =>
      rw [ofMembers, List.foldl_append] at h
      rcases mem_given_add h with hbefore | hlast
      · obtain ⟨member, hmember, hvalue⟩ := ih hbefore
        exact ⟨member, List.mem_append_left _ hmember, hvalue⟩
      · exact ⟨last, List.mem_append_right _ List.mem_cons_self, hlast.symm⟩

/-- What a list gives are items of it. -/
theorem mem_given_ofItems {items : List Datum} {entry : String × Nat × Datum}
    (h : entry ∈ (ofItems names items).1.given) : entry.2.2 ∈ items := by
  obtain ⟨⟨pair, position⟩, hpair, rfl⟩ := List.mem_map.mp h
  exact (List.of_mem_zip (List.fst_mem_of_mem_zipIdx hpair)).2

/-- All that is given comes from JSON values. -/
def FromJson (fields : Fields) : Prop :=
  ∀ name datum, fields.datum? name = some datum → ∃ value, datum = Datum.ofJson value

theorem FromJson.of_given (h : ∀ entry ∈ fields.given, ∃ value, entry.2.2 = Datum.ofJson value) :
    fields.FromJson := by
  intro name datum hdatum
  obtain ⟨entry, hentry, rfl⟩ := mem_given_of_datum? hdatum
  exact h entry hentry

/-- What is read from a member is decoded from a JSON value. -/
theorem FromJson.exists_of_required (h : fields.FromJson) {decode : Decoder α} {a : α}
    (hdone : fields.required name decode = .done a) :
    ∃ value, decode (Datum.ofJson value) = .ok a := by
  unfold required at hdone
  cases hfind : fields.find? name with
  | none =>
      rw [hfind] at hdone
      cases hdone
  | some found =>
      have hdatum : fields.datum? name = some found.2 := by rw [datum?, hfind, Option.map_some]
      obtain ⟨value, hvalue⟩ := h name found.2 hdatum
      rw [hfind] at hdone
      refine ⟨value, ?_⟩
      rw [← hvalue]
      cases hdecode : decode found.2 with
      | error e =>
          simp only [hdecode] at hdone
          cases hdone
      | ok b =>
          simp only [hdecode] at hdone
          cases hdone
          rfl

/-- So is what is read from a member that may be left out, unless it is the default. -/
theorem FromJson.eq_or_exists_of_defaulted (h : fields.FromJson) {decode : Decoder α}
    {a fallback : α} (hdone : fields.defaulted name fallback decode = .done a) :
    a = fallback ∨ ∃ value, decode (Datum.ofJson value) = .ok a := by
  cases hfind : fields.find? name with
  | none =>
      rw [defaulted, hfind] at hdone
      cases hdone
      exact .inl rfl
  | some found =>
      have hrequired : fields.required name decode = .done a := by
        rw [required, hfind]
        rw [defaulted, hfind] at hdone
        exact hdone
      exact .inr (h.exists_of_required hrequired)

end Fields

/-! ## Stable decoders -/

namespace Decoder

variable {α : Type} {decode : Decoder α} {encode : α → Json}

theorem settle_eq_ok_iff {fault : Option Nat} {attempt : Attempt α} {a : α} :
    settle fault attempt = .ok a ↔ fault = none ∧ attempt = .done a := by
  cases fault <;> cases attempt <;> simp [settle, Attempt.result]

/-- What a record is decoded from, whatever its form, are fields that JSON values give. -/
theorem exists_fields {names : List String} {build : Fields → Attempt α} {value : Json} {a : α}
    (h : record names build (Datum.ofJson value) = .ok a) :
    ∃ fields : Fields, fields.FromJson ∧ build fields = .done a := by
  cases value with
  | null => cases h
  | bool _ => cases h
  | int _ => cases h
  | real _ => cases h
  | string _ => cases h
  | array items =>
      refine ⟨_, .of_given fun entry hentry => ?_, (settle_eq_ok_iff.mp h).2⟩
      exact Datum.exists_of_mem_ofSortedItems (Fields.mem_given_ofItems hentry)
  | object members =>
      refine ⟨_, .of_given fun entry hentry => ?_, (settle_eq_ok_iff.mp h).2⟩
      obtain ⟨member, hmember, hvalue⟩ := Fields.mem_given_ofMembers hentry
      rw [← hvalue]
      exact Datum.exists_of_mem_ofSortedMembers hmember

/-- What is written for a decoded value is decoded to that value again. -/
def Stable (decode : Decoder α) (encode : α → Json) : Prop :=
  ∀ value a, decode (Datum.ofJson value) = .ok a → decode (Datum.ofJson (encode a)) = .ok a

theorem Reads.stable (h : Reads decode encode) : Stable decode encode :=
  fun _ a _ => h a

theorem stable_value : Stable value id := by
  intro json a h
  rw [value_ofJson] at h
  cases h
  rw [id, value_ofJson, Json.sorted_sorted]

theorem forall_mem_of_items {view : Json → Datum} {values : List Json} {as : List α}
    (h : items decode (values.map view) = .ok as) :
    ∀ a ∈ as, ∃ value, decode (view value) = .ok a := by
  induction values generalizing as with
  | nil =>
      cases h
      exact fun _ hmem => absurd hmem List.not_mem_nil
  | cons value rest ih =>
      rw [List.map_cons, items] at h
      cases hfirst : decode (view value) with
      | error e =>
          rw [hfirst] at h
          cases h
      | ok first =>
          rw [hfirst] at h
          cases hrest : items decode (rest.map view) with
          | error e =>
              rw [hrest] at h
              cases h
          | ok others =>
              rw [hrest] at h
              cases h
              exact List.forall_mem_cons.mpr ⟨⟨value, hfirst⟩, ih hrest⟩

theorem stable_list (h : Stable decode encode) :
    Stable (list decode) fun as => .array (as.map encode) := by
  intro value as hdecode
  cases value with
  | null => cases hdecode
  | bool _ => cases hdecode
  | int _ => cases hdecode
  | real _ => cases hdecode
  | string _ => cases hdecode
  | object _ => cases hdecode
  | array values =>
      rw [list_ofJson] at hdecode
      have hagain : ∀ a ∈ as, decode (Datum.ofJson (encode a)) = .ok a := by
        intro a hmem
        obtain ⟨value, hvalue⟩ := forall_mem_of_items hdecode a hmem
        exact h value a hvalue
      clear hdecode
      rw [list_ofJson]
      induction as with
      | nil => rfl
      | cons first rest ih =>
          obtain ⟨hfirst, hrest⟩ := List.forall_mem_cons.mp hagain
          have hothers := ih hrest
          simp only [List.map_cons] at hothers ⊢
          rw [items, hfirst, hothers]

/-- A value that is written is there, unless it is written as `null`. -/
theorem optional_ofJson {value : Json} {a : α} (hnull : value ≠ .null)
    (h : decode (Datum.ofJson value) = .ok a) :
    optional decode (Datum.ofJson value) = .ok (some a) := by
  rw [optional, Datum.presence_ofJson hnull, h]

/-- What is decoded as there is not `null`. -/
theorem ne_null_of_optional {value : Json} {a : α}
    (h : optional decode (Datum.ofJson value) = .ok (some a)) :
    value ≠ .null ∧ decode (Datum.ofJson value) = .ok a := by
  have hnull : value ≠ .null := by
    rintro rfl
    cases h
  rw [optional, Datum.presence_ofJson hnull] at h
  refine ⟨hnull, ?_⟩
  cases hdecode : decode (Datum.ofJson value) with
  | error e =>
      rw [hdecode] at h
      cases h
  | ok b =>
      rw [hdecode] at h
      cases h
      rfl

end Decoder

/-! ## Stable fields -/

namespace Fields

open Decoder

variable {α : Type} {decode : Decoder α} {encode : α → Json} {fields again : Fields}
  {name : String}

/-- A member that is always written is read again. -/
theorem FromJson.required_again (hjson : fields.FromJson) (h : Stable decode encode) {a : α}
    (hdone : fields.required name decode = .done a)
    (hgiven : again.datum? name = some (Datum.ofJson (encode a))) :
    again.required name decode = .done a := by
  obtain ⟨value, hvalue⟩ := hjson.exists_of_required hdone
  exact required_of_decode (h value a hvalue) hgiven

/-- So is a list that is always written and may be left out. -/
theorem FromJson.list_again (hjson : fields.FromJson) (h : Stable decode encode) {as : List α}
    (hdone : fields.defaulted name [] (list decode) = .done as)
    (hgiven : again.datum? name = some (Datum.ofJson (.array (as.map encode)))) :
    again.defaulted name [] (list decode) = .done as := by
  rcases hjson.eq_or_exists_of_defaulted hdone with rfl | ⟨value, hvalue⟩
  · exact defaulted_of_decode rfl hgiven
  · exact defaulted_of_decode (stable_list h value as hvalue) hgiven

/-- So is a member that is only written if it is there. -/
theorem FromJson.optional_again (hjson : fields.FromJson) (h : Stable decode encode)
    (hnull : ∀ value a, value ≠ .null → decode (Datum.ofJson value) = .ok a → encode a ≠ .null)
    {a? : Option α} (hdone : fields.defaulted name none (optional decode) = .done a?)
    (hgiven : again.datum? name = (a?.map encode).map Datum.ofJson) :
    again.defaulted name none (optional decode) = .done a? := by
  cases a? with
  | none => rw [defaulted, Option.map_eq_none_iff.mp hgiven]
  | some a =>
      rcases hjson.eq_or_exists_of_defaulted hdone with hnone | ⟨value, hvalue⟩
      · cases hnone
      · obtain ⟨hvalueNull, hdecode⟩ := ne_null_of_optional hvalue
        have hread := optional_ofJson (hnull value a hvalueNull hdecode) (h value a hdecode)
        exact defaulted_of_decode hread hgiven

/-- An untyped member is, as it is never decoded as `null`. -/
theorem FromJson.optional_value_again (hjson : fields.FromJson) {value? : Option Json}
    (hdone : fields.defaulted name none (optional value) = .done value?)
    (hgiven : again.datum? name = value?.map Datum.ofJson) :
    again.defaulted name none (optional value) = .done value? := by
  refine hjson.optional_again stable_value ?_ hdone (by rw [hgiven, Option.map_id_fun, id])
  intro value a hnull hdecode
  rw [value_ofJson] at hdecode
  cases hdecode
  exact Json.sorted_ne_null hnull

/-- An optional member whose type is read back in any case. -/
theorem optional_eq (h : Reads decode encode) (hnull : ∀ a, encode a ≠ .null) {a? : Option α}
    (hgiven : fields.datum? name = (a?.map encode).map Datum.ofJson) :
    fields.defaulted name none (optional decode) = .done a? := by
  cases a? with
  | none => rw [defaulted, Option.map_eq_none_iff.mp hgiven]
  | some a => exact defaulted_of_decode (optional_ofJson (hnull a) (h a)) hgiven

end Fields

end DataQuality

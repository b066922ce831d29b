import DataQuality.Document.Decoder
import DataQuality.Proofs.Keyed

/-!
# Reading records back

What a decoder finds in the document of a JSON record: under each name it asks for, the member of
that name. Data that come from JSON can always be passed over, so that nothing stands in the way
of a decoder but the members that it asks for.
-/

namespace DataQuality

namespace Datum

mutual

theorem isSound_ofSorted : ∀ value : Json, (ofSorted value).isSound = true
  | .null => rfl
  | .bool _ => rfl
  | .int _ => rfl
  | .real _ => rfl
  | .string _ => rfl
  | .array items => areSound_ofSortedItems items
  | .object members => membersSound_ofSortedMembers members

theorem areSound_ofSortedItems : ∀ items : List Json, areSound (ofSortedItems items) = true
  | [] => rfl
  | item :: rest => by
      rw [ofSortedItems, areSound, isSound_ofSorted item, areSound_ofSortedItems rest]
      rfl

theorem membersSound_ofSortedMembers :
    ∀ members : List (String × Json), membersSound (ofSortedMembers members) = true
  | [] => rfl
  | (key, value) :: rest => by
      rw [ofSortedMembers, membersSound, isSound_ofSorted value,
        membersSound_ofSortedMembers rest]
      rfl

end

theorem ofSortedItems_eq_map (items : List Json) : ofSortedItems items = items.map ofSorted := by
  induction items with
  | nil => rfl
  | cons item rest ih => rw [ofSortedItems, ih, List.map_cons]

theorem ofSortedMembers_eq_map (members : List (String × Json)) :
    ofSortedMembers members = members.map fun member => (.text member.1, ofSorted member.2) := by
  induction members with
  | nil => rfl
  | cons member rest ih => rw [ofSortedMembers, ih, List.map_cons]

end Datum

namespace Json

theorem sortedItems_eq_map (items : List Json) : sortedItems items = items.map sorted := by
  induction items with
  | nil => rfl
  | cons item rest ih => rw [sortedItems, ih, List.map_cons]

theorem sortedMembers_eq_map (members : List (String × Json)) :
    sortedMembers members = members.map fun member => (member.1, member.2.sorted) := by
  induction members with
  | nil => rfl
  | cons member rest ih => rw [sortedMembers, ih, List.map_cons]

end Json

/-! ## The fields of a record -/

namespace Fields

variable {names : List String} {fields : Fields}

/-- What is given for a name, whatever its place. -/
def datum? (fields : Fields) (name : String) : Option Datum :=
  (fields.find? name).map (·.2)

/-- A record gives these data under the names that are asked for, and nothing is wrong with it. -/
structure Gives (names : List String) (fields : Fields) (data : String → Option Datum) :
    Prop where
  fault_eq : fields.fault = none
  datum?_eq : ∀ name, fields.datum? name = if name ∈ names then data name else none

theorem any_given_iff (fields : Fields) (name : String) :
    (fields.given.any fun entry => entry.1 == name) = (fields.datum? name).isSome := by
  simp only [datum?, find?, Option.isSome_map]
  rw [Bool.eq_iff_iff, List.find?_isSome, List.any_eq_true]

theorem gives_empty (names : List String) : Gives names empty fun _ => none where
  fault_eq := rfl
  datum?_eq name := by split <;> rfl

/-- A member with a new name is given under it. -/
theorem Gives.add {data : String → Option Datum} (h : Gives names fields data) {key : String}
    (hnew : data key = none) {value : Datum} (hsound : value.isSound = true) :
    Gives names (fields.add names (.text key) value) fun name =>
      if name = key then some value else data name := by
  have hkey : (Datum.text key).text? = some key := rfl
  by_cases hasked : key ∈ names
  -- a name that is asked for: the member is the first with it, so nothing is repeated
  · have hgiven : (fields.given.any fun entry => entry.1 == key) = false := by
      rw [any_given_iff, h.datum?_eq, if_pos hasked, hnew]
      rfl
    have hadd : fields.add names (.text key) value =
        ⟨fields.given ++ [(key, fields.size, value)], fields.size + 1, fields.fault⟩ := by
      simp only [Fields.add, hkey, List.contains_iff_mem.mpr hasked, hgiven, if_true,
        Bool.false_eq_true, if_false]
    refine ⟨by rw [hadd]; exact h.fault_eq, fun name => ?_⟩
    have hbefore := h.datum?_eq name
    simp only [datum?, find?] at hbefore
    simp only [hadd, datum?, find?, List.find?_append, Option.map_or, hbefore]
    by_cases hname : name = key
    · subst hname
      simp [hasked, hnew]
    · have hne : ¬key = name := fun he => hname he.symm
      simp [hname, hne]
  -- any other name: the member only counts, as JSON data can be passed over
  · have hadd : fields.add names (.text key) value =
        { fields with size := fields.size + 1 } := by
      have hcontains : names.contains key = false :=
        Bool.eq_false_iff.mpr fun hmem => hasked (List.contains_iff_mem.mp hmem)
      simp only [Fields.add, hkey, hcontains, hsound, if_true, Bool.false_eq_true, if_false]
    refine ⟨by rw [hadd]; exact h.fault_eq, fun name => ?_⟩
    have hbefore := h.datum?_eq name
    rw [hadd]
    refine hbefore.trans ?_
    by_cases hname : name = key
    · subst hname
      simp only [hasked, if_false]
    · simp only [hname, if_false]

theorem gives_congr {data data' : String → Option Datum} (h : Gives names fields data)
    (heq : ∀ name, data name = data' name) : Gives names fields data' :=
  ⟨h.fault_eq, fun name => by rw [h.datum?_eq, heq]⟩

/-- The members of a record without repeated keys are given under their keys. -/
theorem gives_ofMembers (names : List String) {members : List (String × Json)}
    (h : (members.map (·.1)).Nodup) :
    Gives names (ofMembers names (Datum.ofSortedMembers members)) fun name =>
      (Keyed.find? name members).map Datum.ofSorted := by
  induction members using List.reverseRecOn with
  | nil => exact gives_empty names
  | append_singleton members last ih =>
      rw [List.map_append, List.nodup_append] at h
      have hnew : Keyed.find? last.1 members = none :=
        Keyed.find?_eq_none_iff.mpr fun hmem => h.2.2 last.1 hmem last.1 List.mem_cons_self rfl
      have hfold : ofMembers names (Datum.ofSortedMembers (members ++ [last])) =
          (ofMembers names (Datum.ofSortedMembers members)).add names (.text last.1)
            (Datum.ofSorted last.2) := by
        simp only [ofMembers, Datum.ofSortedMembers_eq_map, List.map_append, List.map_cons,
          List.map_nil, List.foldl_append, List.foldl_cons, List.foldl_nil]
      rw [hfold]
      refine gives_congr ((ih h.1).add (by rw [hnew]; rfl) (Datum.isSound_ofSorted last.2))
        fun name => ?_
      rw [Keyed.find?_append]
      by_cases hname : name = last.1
      · rw [if_pos hname, hname, hnew]
        simp [Keyed.find?]
      · rw [if_neg hname]
        simp [Keyed.find?, hname]

end Fields

namespace Json

/-- The members that are present in a record. -/
def present (members : List (String × Option Json)) : List (String × Json) :=
  members.filterMap fun member => member.2.map (member.1, ·)

theorem present_keys_sublist (members : List (String × Option Json)) :
    ((present members).map (·.1)).Sublist (members.map (·.1)) := by
  induction members with
  | nil => exact List.Sublist.slnil
  | cons member rest ih =>
      obtain ⟨key, value⟩ := member
      cases value with
      | none => exact ih.cons key
      | some value => exact ih.cons_cons key

theorem find?_present {members : List (String × Option Json)}
    (h : (members.map (·.1)).Nodup) (name : String) :
    Keyed.find? name (present members) = (Keyed.find? name members).join := by
  induction members with
  | nil => rfl
  | cons member rest ih =>
      obtain ⟨key, value⟩ := member
      obtain ⟨hkey, hrest⟩ := List.nodup_cons.mp h
      cases value with
      | none =>
          simp only [present, List.filterMap_cons, Option.map_none, Keyed.find?]
          rw [← present, ih hrest]
          by_cases hname : name = key
          · subst hname
            rw [if_pos rfl, Keyed.find?_eq_none_iff.mpr hkey]
            rfl
          · rw [if_neg hname]
      | some value =>
          simp only [present, List.filterMap_cons, Option.map_some, Keyed.find?]
          rw [← present, ih hrest]
          split <;> rfl

end Json

namespace Decoder

variable {α β : Type}

/-- Decoding a record comes to reading fields that give its members, if they give them. -/
theorem record_of_gives {names : List String} {build : Fields → Attempt α}
    {members : List (Datum × Datum)} {use : RecordUse} {data : String → Option Datum} {a : α}
    (hgives : Fields.Gives names (Fields.ofMembers names members) data)
    (hbuild : ∀ fields : Fields,
      (∀ name ∈ names, fields.datum? name = data name) → build fields = .done a) :
    record names build (.record members use) = .ok a := by
  have hrun : record names build (.record members use) =
      settle (Fields.ofMembers names members).fault (build (Fields.ofMembers names members)) := rfl
  rw [hrun, hgives.fault_eq, hbuild _ fun name hname => ?_]
  · rfl
  · rw [hgives.datum?_eq, if_pos hname]

/-- Decoding the document of a record comes to reading fields that give its members. -/
theorem record_ofJson {names : List String} {build : Fields → Attempt α}
    (members : List (String × Option Json)) {a : α} (h : (members.map (·.1)).Nodup)
    (hbuild : ∀ fields : Fields,
      (∀ name ∈ names, fields.datum? name =
        (Keyed.find? name members).join.map Datum.ofJson) → build fields = .done a) :
    record names build (Datum.ofJson (Json.record members)) = .ok a := by
  have hpresent : ((Json.present members).map (·.1)).Nodup :=
    (Json.present_keys_sublist members).nodup h
  have hsorted : ((Json.sortedMembers (Json.present members)).map (·.1)).Nodup := by
    rw [Json.sortedMembers_eq_map, List.map_map]
    exact hpresent
  -- a document is sorted before it is decoded, which loses no member as the keys differ
  let entries := Keyed.ofList (Json.sortedMembers (Json.present members))
  have hentries : (entries.map (·.1)).Nodup := (Keyed.sorted_ofList _).nodup
  have hgives := Fields.gives_ofMembers names hentries
  refine record_of_gives (Fields.gives_congr hgives fun name => ?_) hbuild
  rw [Keyed.find?_ofList hsorted, Json.sortedMembers_eq_map, Keyed.find?_map,
    Json.find?_present h, Option.map_map]
  rfl

/-- So does decoding the record with its members in their order. -/
theorem record_ofSorted {names : List String} {build : Fields → Attempt α}
    (members : List (String × Option Json)) {a : α} (h : (members.map (·.1)).Nodup)
    (hbuild : ∀ fields : Fields,
      (∀ name ∈ names, fields.datum? name =
        (Keyed.find? name members).join.map Datum.ofSorted) → build fields = .done a) :
    record names build (Datum.ofSorted (Json.record members)) = .ok a := by
  have hpresent : ((Json.present members).map (·.1)).Nodup :=
    (Json.present_keys_sublist members).nodup h
  have hgives := Fields.gives_ofMembers names hpresent
  refine record_of_gives (Fields.gives_congr hgives fun name => ?_) hbuild
  rw [Json.find?_present h]

/-- The decoder reads back what the encoder writes. -/
def Reads (decode : Decoder α) (encode : α → Json) : Prop :=
  ∀ a, decode (Datum.ofJson (encode a)) = .ok a

/-- What is read back is written differently if it is different. -/
theorem Reads.injective {decode : Decoder α} {encode : α → Json} (h : Reads decode encode)
    {a a' : α} (heq : encode a = encode a') : a = a' := by
  have hread := h a
  rw [heq, h a'] at hread
  exact (Except.ok.inj hread).symm

/-- The decoder reads back what the encoder writes, with members in the order of the text. -/
def ReadsInOrder (decode : Decoder α) (encode : α → Json) : Prop :=
  ∀ a, decode (Datum.ofSorted (encode a)) = .ok a

theorem reads_text : Reads text .string := fun _ => rfl

theorem list_ofJson (decode : Decoder α) (values : List Json) :
    list decode (Datum.ofJson (.array values)) = items decode (values.map Datum.ofJson) := by
  simp only [Datum.ofJson, Json.sorted, Json.sortedItems_eq_map, Datum.ofSorted,
    Datum.jsonList, Datum.ofSortedItems_eq_map, list, List.map_map]
  rfl

theorem items_map {decode : Decoder α} {view : α → Datum} (h : ∀ a, decode (view a) = .ok a)
    (as : List α) : items decode (as.map view) = .ok as := by
  induction as with
  | nil => rfl
  | cons a rest ih => simp only [List.map_cons, items, h a, ih]

/-- Items are read back one by one. -/
theorem reads_list {decode : Decoder α} {encode : α → Json} (h : Reads decode encode) :
    Reads (list decode) fun as => .array (as.map encode) := by
  intro as
  rw [list_ofJson, List.map_map]
  exact items_map h as

theorem readsInOrder_list {decode : Decoder α} {encode : α → Json}
    (h : ReadsInOrder decode encode) :
    ReadsInOrder (list decode) fun as => .array (as.map encode) := by
  intro as
  simp only [Datum.ofSorted, Datum.jsonList, Datum.ofSortedItems_eq_map, list, List.map_map]
  exact items_map h as

end Decoder

/-! ## Reading single fields -/

namespace Fields

variable {α : Type} {fields : Fields} {name : String}

/-- A member is read as what its datum decodes to. -/
theorem required_of_decode {decode : Decoder α} {datum : Datum} {a : α}
    (h : decode datum = .ok a) (hgiven : fields.datum? name = some datum) :
    fields.required name decode = .done a := by
  obtain ⟨⟨position, value⟩, hfind, hvalue⟩ := Option.map_eq_some_iff.mp hgiven
  simp only at hvalue
  rw [required, hfind, hvalue]
  exact congrArg (Attempt.ofExcept position) h

theorem defaulted_of_decode {decode : Decoder α} {datum : Datum} {a fallback : α}
    (h : decode datum = .ok a) (hgiven : fields.datum? name = some datum) :
    fields.defaulted name fallback decode = .done a := by
  obtain ⟨⟨position, value⟩, hfind, hvalue⟩ := Option.map_eq_some_iff.mp hgiven
  simp only at hvalue
  rw [defaulted, hfind, hvalue]
  exact congrArg (Attempt.ofExcept position) h

theorem required_eq {decode : Decoder α} {encode : α → Json} (h : Decoder.Reads decode encode)
    {a : α} (hgiven : fields.datum? name = some (Datum.ofJson (encode a))) :
    fields.required name decode = .done a :=
  required_of_decode (h a) hgiven

theorem defaulted_eq {decode : Decoder α} {encode : α → Json} (h : Decoder.Reads decode encode)
    {a fallback : α} (hgiven : fields.datum? name = some (Datum.ofJson (encode a))) :
    fields.defaulted name fallback decode = .done a :=
  defaulted_of_decode (h a) hgiven

/-- An optional text is read back, whether it is written or not. -/
theorem optionalText_of_view {view : Json → Datum} (hview : ∀ s, view (.string s) = .text s)
    {text? : Option String} (hgiven : fields.datum? name = (text?.map Json.string).map view) :
    fields.defaulted name none (Decoder.optional Decoder.text) = .done text? := by
  cases text? with
  | none => rw [defaulted, Option.map_eq_none_iff.mp hgiven]
  | some s =>
      have hread : Decoder.optional Decoder.text (view (.string s)) = .ok (some s) := by
        rw [hview]
        rfl
      exact defaulted_of_decode hread hgiven

theorem optionalText_eq {text? : Option String}
    (hgiven : fields.datum? name = (text?.map Json.string).map Datum.ofJson) :
    fields.defaulted name none (Decoder.optional Decoder.text) = .done text? :=
  optionalText_of_view (fun _ => rfl) hgiven

end Fields

end DataQuality

import DataQuality.Proofs.Document.Stability
import Mathlib.Data.List.Forall2

/-!
# What is read exactly

When a decoder reads something and what it reads, said of the datum alone: a list item by item, a
record by what stands under its keys. A record is written with its keys or as the list of its
fields. With keys, one that is asked for stands there once at most, and what stands under any other
is passed over.
-/

namespace DataQuality

namespace Datum

/-- What stands under a key among members, in order. -/
def under (key : String) (members : List (Datum × Datum)) : List Datum :=
  (members.filter fun member => member.1.text? == some key).map (·.2)

/-- A member can be read if its key is a text that is asked for, or if its value can be passed
over. -/
def Admissible (names : List String) (member : Datum × Datum) : Prop :=
  ∃ key, member.1.text? = some key ∧ (key ∈ names ∨ member.2.isSound = true)

/-- What a datum that can be read as a record gives under the names that are asked for. -/
inductive HasFields (names : List String) : Datum → (String → Option Datum) → Prop where
  | keyed {members : List (Datum × Datum)} {use : RecordUse} {given : String → Option Datum} :
      (∀ member ∈ members, Admissible names member) →
      (∀ name ∈ names, under name members = (given name).toList) →
      HasFields names (.record members use) given
  | listed {items : List Datum} {use : ListUse} {given : String → Option Datum} :
      use.positional ≠ .refused → (use.positional = .exact → items.length ≤ names.length) →
      (∀ (position : Nat) (name : String), names[position]? = some name →
        given name = items[position]?) →
      HasFields names (.list items use) given
  | blank {scalar : Scalar} {given : String → Option Datum} : scalar.blank = true →
      (∀ name ∈ names, given name = none) → HasFields names (.scalar scalar) given

/-- The items of a datum that can be read as a list. -/
inductive HasItems : Datum → List Datum → Prop where
  | list {items : List Datum} {use : ListUse} : HasItems (.list items use) items
  | blank {scalar : Scalar} : scalar.blank = true → HasItems (.scalar scalar) []

theorem under_concat (name : String) (members : List (Datum × Datum)) (key value : Datum) :
    under name (members ++ [(key, value)]) =
      under name members ++ if key.text? = some name then [value] else [] := by
  rw [under, List.filter_append, List.map_append, ← under]
  by_cases hname : key.text? = some name
  · simp [hname]
  · simp [hname]

end Datum

/-! ## Fields -/

namespace Fields

variable {α : Type} {names : List String} {fields : Fields} {name : String}

theorem defaulted_eq_done_iff {decode : Decoder α} {a fallback : α} :
    fields.defaulted name fallback decode = .done a ↔
      fields.datum? name = none ∧ fallback = a ∨
        ∃ datum, fields.datum? name = some datum ∧ decode datum = .ok a := by
  rw [defaulted, datum?]
  cases fields.find? name with
  | none => simp
  | some found => cases hdecode : decode found.2 <;> simp [hdecode, Attempt.ofExcept]

theorem add_of_nameless {key value : Datum} (h : key.text? = none) :
    fields.add names key value =
      { fields with size := fields.size + 1, fault := fields.fault <|> some fields.size } := by
  simp only [add, h]

theorem add_of_asked {key value : Datum} (hkey : key.text? = some name) (hname : name ∈ names) :
    fields.add names key value =
      if fields.datum? name = none then
        ⟨fields.given ++ [(name, fields.size, value)], fields.size + 1, fields.fault⟩
      else { fields with size := fields.size + 1, fault := fields.fault <|> some fields.size } := by
  simp only [add, hkey, List.contains_iff_mem.mpr hname, if_true, any_given_iff]
  cases fields.datum? name <;> rfl

theorem add_of_not_asked {key value : Datum} (hkey : key.text? = some name)
    (hname : name ∉ names) :
    fields.add names key value =
      { fields with
        size := fields.size + 1
        fault := if value.isSound then fields.fault else fields.fault <|> some fields.size } := by
  have hcontains : names.contains name = false :=
    Bool.eq_false_iff.mpr fun hmem => hname (List.contains_iff_mem.mp hmem)
  simp only [add, hkey, hcontains, Bool.false_eq_true, if_false]
  cases value.isSound <;> rfl

/-- One more member is in order exactly if it can be read and repeats no name. -/
theorem fault_add_eq_none_iff {key value : Datum} :
    (fields.add names key value).fault = none ↔
      fields.fault = none ∧ Datum.Admissible names (key, value) ∧
        ∀ name ∈ names, key.text? = some name → fields.datum? name = none := by
  have hfault : (fields.fault <|> some fields.size) ≠ none := by
    cases fields.fault <;> exact nofun
  cases hkey : key.text? with
  | none =>
      rw [add_of_nameless hkey]
      refine iff_of_false hfault ?_
      rintro ⟨-, ⟨key, hname, -⟩, -⟩
      exact nomatch hkey.symm.trans hname
  | some name =>
      by_cases hname : name ∈ names
      · have hadmissible : Datum.Admissible names (key, value) := ⟨name, hkey, .inl hname⟩
        have hrepeats : (∀ other ∈ names, some name = some other → fields.datum? other = none) ↔
            fields.datum? name = none :=
          ⟨fun h => h name hname rfl, fun h other _ heq => Option.some.inj heq ▸ h⟩
        rw [add_of_asked hkey hname, and_iff_right hadmissible, hrepeats]
        by_cases hnew : fields.datum? name = none
        · rw [if_pos hnew, and_iff_left hnew]
        · rw [if_neg hnew]
          exact iff_of_false hfault fun h => hnew h.2
      · have hrepeats : ∀ other ∈ names, some name = some other → fields.datum? other = none :=
          fun other hother heq => absurd (Option.some.inj heq ▸ hother) hname
        have hadmissible : Datum.Admissible names (key, value) ↔ value.isSound = true := by
          constructor
          · rintro ⟨other, hother, hasked | hsound⟩
            · exact absurd (Option.some.inj (hkey.symm.trans hother) ▸ hasked) hname
            · exact hsound
          · exact fun hsound => ⟨name, hkey, .inr hsound⟩
        rw [add_of_not_asked hkey hname, and_iff_left hrepeats, hadmissible]
        cases hsound : value.isSound with
        | true => simp
        | false => simp

/-- Of several members under a name the first counts. -/
theorem datum?_add (fields : Fields) (key value : Datum) (hname : name ∈ names) :
    (fields.add names key value).datum? name =
      (fields.datum? name).or (if key.text? = some name then some value else none) := by
  cases hkey : key.text? with
  | none =>
      rw [add_of_nameless hkey, if_neg nofun, Option.or_none]
      rfl
  | some other =>
      by_cases heq : other = name
      · subst heq
        rw [add_of_asked hkey hname, if_pos rfl]
        cases hgiven : fields.datum? other with
        | some datum =>
            rw [if_neg nofun, Option.some_or, ← hgiven]
            rfl
        | none =>
            have hfind : fields.given.find? (fun entry => entry.1 == other) = none := by
              rwa [datum?, find?, Option.map_map, Option.map_eq_none_iff] at hgiven
            rw [if_pos rfl]
            simp [datum?, find?, List.find?_append, hfind]
      · have hne : some other ≠ some name := fun h => heq (Option.some.inj h)
        rw [if_neg hne, Option.or_none]
        by_cases hother : other ∈ names
        · rw [add_of_asked hkey hother]
          split
          next => simp [datum?, find?, List.find?_append, heq]
          next => rfl
        · rw [add_of_not_asked hkey hother]
          rfl

theorem ofMembers_concat (names : List String) (members : List (Datum × Datum))
    (key value : Datum) : ofMembers names (members ++ [(key, value)]) =
      (ofMembers names members).add names key value := by
  rw [ofMembers, List.foldl_append]
  rfl

theorem datum?_ofMembers (members : List (Datum × Datum)) (hname : name ∈ names) :
    (ofMembers names members).datum? name = (Datum.under name members).head? := by
  induction members using List.reverseRecOn with
  | nil => rfl
  | append_singleton members last ih =>
      obtain ⟨key, value⟩ := last
      rw [ofMembers_concat, datum?_add _ _ _ hname, ih, Datum.under_concat, List.head?_append]
      split <;> rfl

/-- The members of a record are in order exactly if each can be read and no name is repeated. -/
theorem fault_ofMembers_eq_none_iff (names : List String) (members : List (Datum × Datum)) :
    (ofMembers names members).fault = none ↔
      (∀ member ∈ members, Datum.Admissible names member) ∧
        ∀ name ∈ names, (Datum.under name members).length ≤ 1 := by
  induction members using List.reverseRecOn with
  | nil =>
      exact iff_of_true rfl ⟨fun _ hmem => absurd hmem List.not_mem_nil, fun _ _ => Nat.zero_le 1⟩
  | append_singleton members last ih =>
      obtain ⟨key, value⟩ := last
      have honce : (∀ name ∈ names, (Datum.under name (members ++ [(key, value)])).length ≤ 1) ↔
          (∀ name ∈ names, (Datum.under name members).length ≤ 1) ∧
            ∀ name ∈ names, key.text? = some name →
              (ofMembers names members).datum? name = none := by
        simp only [Datum.under_concat, ← forall_and]
        refine forall_congr' fun name => forall_congr' fun hname => ?_
        rw [datum?_ofMembers members hname, List.head?_eq_none_iff, ← List.length_eq_zero_iff,
          List.length_append]
        by_cases hkey : key.text? = some name
        · simp only [hkey, if_true, List.length_singleton, forall_true_left]
          omega
        · simp only [hkey, if_false, List.length_nil, Nat.add_zero, false_imp_iff, and_true]
      rw [ofMembers_concat, fault_add_eq_none_iff, ih, honce, List.forall_mem_append,
        List.forall_mem_singleton]
      tauto

/-- A list gives its items in the order of the names. -/
theorem datum?_ofItems (hnodup : names.Nodup) (items : List Datum) {position : Nat}
    (hname : names[position]? = some name) :
    (ofItems names items).1.datum? name = items[position]? := by
  have hfind : ∀ start, (((names.zip items).zipIdx start).find? fun entry =>
      entry.1.1 == name).map (fun entry => entry.1.2) = items[position]? := by
    induction names generalizing items position with
    | nil => cases hname
    | cons first rest ih =>
        intro start
        obtain ⟨hfirst, hrest⟩ := List.nodup_cons.mp hnodup
        cases items with
        | nil => rfl
        | cons item items =>
            cases position with
            | zero =>
                obtain rfl : first = name := Option.some.inj hname
                simp [List.zip_cons_cons, List.zipIdx_cons]
            | succ position =>
                have hmem : name ∈ rest := List.mem_of_getElem? hname
                have hne : first ≠ name := fun heq => hfirst (heq ▸ hmem)
                simp [List.zip_cons_cons, List.zipIdx_cons, hne, ← ih hrest items hname (start + 1)]
  rw [← hfind 0, datum?, find?, ofItems, List.find?_map, Option.map_map, Option.map_map]
  rfl

end Fields

namespace Decoder

variable {α : Type} {names : List String} {datum : Datum}

theorem text_eq_ok_iff {s : String} : text datum = .ok s ↔ datum.text? = some s := by
  rw [text]
  cases datum.text? <;> simp

theorem value_eq_ok_iff {json : Json} : value datum = .ok json ↔ datum.value? = some json := by
  rw [value]
  cases datum.value? <;> simp

theorem optional_eq_ok_iff {decode : Decoder α} {a? : Option α} :
    optional decode datum = .ok a? ↔
      datum.presence = .missing ∧ a? = none ∨
        datum.presence = .given ∧ ∃ a, decode datum = .ok a ∧ a? = some a := by
  rw [optional]
  cases datum.presence with
  | missing => simp [eq_comm]
  | unclear => simp
  | given => cases decode datum <;> simp [eq_comm]

theorem items_eq_ok_iff {decode : Decoder α} {data : List Datum} {as : List α} :
    items decode data = .ok as ↔ List.Forall₂ (fun datum a => decode datum = .ok a) data as := by
  induction data generalizing as with
  | nil => cases as <;> simp [items]
  | cons first rest ih =>
      rw [items, List.forall₂_cons_left_iff]
      cases decode first with
      | error e => simp
      | ok a =>
          cases hrest : items decode rest with
          | error e =>
              simp [← ih, hrest]
          | ok others => simp [← ih, hrest, eq_comm]

theorem list_eq_ok_iff {decode : Decoder α} {as : List α} :
    list decode datum = .ok as ↔
      ∃ data, datum.HasItems data ∧
        List.Forall₂ (fun datum a => decode datum = .ok a) data as := by
  constructor
  · intro h
    cases datum with
    | list data use => exact ⟨data, .list, items_eq_ok_iff.mp h⟩
    | scalar scalar =>
        cases hblank : scalar.blank with
        | false => simp [list, hblank] at h
        | true =>
            have has : as = [] := by simpa [list, hblank, eq_comm] using h
            exact ⟨[], .blank hblank, has ▸ .nil⟩
    | record | unusable | broken => cases h
  · rintro ⟨data, hdata, has⟩
    cases hdata with
    | list => exact items_eq_ok_iff.mpr has
    | blank hblank =>
        cases has
        exact if_pos hblank

variable {build : Fields → Attempt α} {a : α}

theorem record_list_eq_ok_iff {data : List Datum} {use : ListUse} :
    record names build (.list data use) = .ok a ↔
      use.positional ≠ .refused ∧ (use.positional = .exact → data.length ≤ names.length) ∧
        build (Fields.ofItems names data).1 = .done a := by
  have hsurplus : (Fields.ofItems names data).2.isEmpty = true ↔ data.length ≤ names.length := by
    rw [Fields.ofItems, List.isEmpty_iff, List.drop_eq_nil_iff]
  cases hpositional : use.positional with
  | refused => simp [record, hpositional]
  | exact => simp [record, hpositional, settle_eq_ok_iff, hsurplus]
  | atLeast => simp [record, hpositional, settle_eq_ok_iff]

/-- What a record is read from are fields that it has. -/
theorem exists_hasFields (hnodup : names.Nodup) (h : record names build datum = .ok a) :
    ∃ fields : Fields, datum.HasFields names fields.datum? ∧ build fields = .done a := by
  cases datum with
  | record members use =>
      obtain ⟨hfault, hbuild⟩ := settle_eq_ok_iff.mp h
      obtain ⟨hadmissible, honce⟩ := (Fields.fault_ofMembers_eq_none_iff names members).mp hfault
      refine ⟨_, .keyed hadmissible fun name hname => ?_, hbuild⟩
      rw [Fields.datum?_ofMembers members hname]
      cases hunder : Datum.under name members with
      | nil => rfl
      | cons datum rest =>
          have hrest := honce name hname
          rw [hunder, List.length_cons] at hrest
          rw [List.length_eq_zero_iff.mp (Nat.le_zero.mp (Nat.le_of_succ_le_succ hrest))]
          rfl
  | list data use =>
      obtain ⟨hpositional, hexact, hbuild⟩ := record_list_eq_ok_iff.mp h
      exact ⟨_, .listed hpositional hexact fun position name =>
        Fields.datum?_ofItems hnodup data, hbuild⟩
  | scalar scalar =>
      cases hblank : scalar.blank with
      | false => simp [record, hblank] at h
      | true =>
          have hsettled : settle none (build .empty) = .ok a := by
            simpa [record, hblank] using h
          exact ⟨.empty, .blank hblank fun _ _ => rfl, (settle_eq_ok_iff.mp hsettled).2⟩
  | unusable | broken => cases h

/-- A record is read from whatever has fields from which it can be read. -/
theorem record_of_hasFields (hnodup : names.Nodup) {given : String → Option Datum}
    (h : datum.HasFields names given)
    (hbuild : ∀ fields : Fields,
      (∀ name ∈ names, fields.datum? name = given name) → build fields = .done a) :
    record names build datum = .ok a := by
  cases h with
  | @keyed members use _ hadmissible hunder =>
      refine settle_eq_ok_iff.mpr
        ⟨(Fields.fault_ofMembers_eq_none_iff names members).mpr ⟨hadmissible, ?_⟩,
          hbuild _ fun name hname => ?_⟩
      · intro name hname
        rw [hunder name hname]
        cases given name <;> simp
      · rw [Fields.datum?_ofMembers members hname, hunder name hname]
        cases given name <;> rfl
  | @listed data use _ hpositional hexact hplaces =>
      refine record_list_eq_ok_iff.mpr ⟨hpositional, hexact, hbuild _ fun name hname => ?_⟩
      obtain ⟨position, hposition⟩ := List.mem_iff_getElem?.mp hname
      rw [Fields.datum?_ofItems hnodup data hposition, hplaces position name hposition]
  | @blank scalar _ hblank hnone =>
      have hrecord : record names build (.scalar scalar) = settle none (build .empty) :=
        if_pos hblank
      rw [hrecord]
      exact settle_eq_ok_iff.mpr ⟨rfl, hbuild _ fun name hname => (hnone name hname).symm⟩

end Decoder

end DataQuality

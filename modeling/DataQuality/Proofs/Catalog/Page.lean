import DataQuality.Catalog.Rest
import DataQuality.Proofs.Document.Exact
import DataQuality.Proofs.Json.Text

/-!
# Pages

What a page is, said of the document in an answer: its entities are under `data`, and the cursor of
the next page is under `after` in what is under `paging`. Anything else in the document may be
there, and all of these may be missing. An answer to a request for a page either is a page or is an
error.
-/

namespace DataQuality

open RestClient

/-! ## Pages in documents -/

namespace Datum

/-- The entities under `data`, as untyped values; none if it is left out. -/
inductive Entities : Option Datum → List Json → Prop where
  | missing : Entities none []
  | list {datum : Datum} {items : List Datum} {entities : List Json} : datum.HasItems items →
      List.Forall₂ (fun item entity => item.value? = some entity) items entities →
      Entities (some datum) entities

/-- The cursor under `after`; none if it is left out or null. -/
inductive Cursor : Option Datum → Option String → Prop where
  | missing : Cursor none none
  | null {datum : Datum} : datum.presence = .missing → Cursor (some datum) none
  | text {datum : Datum} {cursor : String} : datum.presence = .given →
      datum.text? = some cursor → Cursor (some datum) (some cursor)

/-- The cursor in what is under `paging`; none if that is left out or null. -/
inductive NextCursor : Option Datum → Option String → Prop where
  | missing : NextCursor none none
  | null {datum : Datum} : datum.presence = .missing → NextCursor (some datum) none
  | paging {datum : Datum} {given : String → Option Datum} {next : Option String} :
      datum.presence = .given → datum.HasFields ["after"] given → Cursor (given "after") next →
      NextCursor (some datum) next

/-- A page: its entities, and the cursor of the next page if there is one. -/
def IsPage (datum : Datum) (page : Page) : Prop :=
  ∃ given, datum.HasFields ["data", "paging"] given ∧ Entities (given "data") page.data ∧
    NextCursor (given "paging") page.next

end Datum

/-- A document that is a page and ends properly. -/
structure Document.IsPage (document : Document) (page : Page) : Prop where
  complete : document.complete = true
  root : document.root.IsPage page

namespace Fields

variable {fields : Fields} {name : String}

theorem defaulted_entities_iff {entities : List Json} :
    fields.defaulted name [] (Decoder.list Decoder.value) = .done entities ↔
      Datum.Entities (fields.datum? name) entities := by
  simp only [defaulted_eq_done_iff, Decoder.list_eq_ok_iff, Decoder.value_eq_ok_iff]
  constructor
  · rintro (⟨hnone, rfl⟩ | ⟨datum, hdatum, items, hitems, heach⟩)
    · exact hnone ▸ .missing
    · exact hdatum ▸ .list hitems heach
  · intro h
    cases hgiven : fields.datum? name with
    | none =>
        rw [hgiven] at h
        cases h
        exact .inl ⟨rfl, rfl⟩
    | some datum =>
        rw [hgiven] at h
        cases h with
        | list hitems heach => exact .inr ⟨_, rfl, _, hitems, heach⟩

theorem defaulted_cursor_iff {cursor : Option String} :
    fields.defaulted name none (Decoder.optional Decoder.text) = .done cursor ↔
      Datum.Cursor (fields.datum? name) cursor := by
  simp only [defaulted_eq_done_iff, Decoder.optional_eq_ok_iff, Decoder.text_eq_ok_iff]
  constructor
  · rintro (⟨hnone, rfl⟩ | ⟨datum, hdatum, ⟨hnull, rfl⟩ | ⟨hgiven, text, htext, rfl⟩⟩)
    · exact hnone ▸ .missing
    · exact hdatum ▸ .null hnull
    · exact hdatum ▸ .text hgiven htext
  · intro h
    cases hgiven : fields.datum? name with
    | none =>
        rw [hgiven] at h
        cases h
        exact .inl ⟨rfl, rfl⟩
    | some datum =>
        rw [hgiven] at h
        cases h with
        | null hnull => exact .inr ⟨_, rfl, .inl ⟨hnull, rfl⟩⟩
        | text hpresent htext => exact .inr ⟨_, rfl, .inr ⟨hpresent, _, htext, rfl⟩⟩

end Fields

/-! ## Reading pages -/

namespace RestClient

variable {datum : Datum} {fields : Fields}

theorem pagingDecoder_eq_ok_iff {next : Option String} :
    pagingDecoder datum = .ok next ↔
      ∃ given, datum.HasFields ["after"] given ∧ Datum.Cursor (given "after") next := by
  have hnodup : ["after"].Nodup := List.nodup_singleton _
  constructor
  · intro h
    obtain ⟨fields, hfields, hbuild⟩ := Decoder.exists_hasFields hnodup h
    obtain ⟨after, hafter, rfl⟩ := Attempt.map_eq_done_iff.mp hbuild
    exact ⟨_, hfields, Fields.defaulted_cursor_iff.mp hafter⟩
  · rintro ⟨given, hfields, hcursor⟩
    refine Decoder.record_of_hasFields hnodup hfields fun fields hgiven => ?_
    rw [← hgiven "after" List.mem_cons_self] at hcursor
    exact Attempt.map_eq_done_iff.mpr ⟨next, Fields.defaulted_cursor_iff.mpr hcursor, rfl⟩

/-- What is under `paging` gives the cursor of the next page, or none. -/
theorem defaulted_paging_iff {name : String} {next : Option String} :
    (∃ paging, fields.defaulted name none (Decoder.optional pagingDecoder) = .done paging ∧
        paging.bind id = next) ↔ Datum.NextCursor (fields.datum? name) next := by
  simp only [Fields.defaulted_eq_done_iff, Decoder.optional_eq_ok_iff, pagingDecoder_eq_ok_iff]
  constructor
  · rintro ⟨paging, ⟨hnone, rfl⟩ | ⟨datum, hdatum, hpaging⟩, rfl⟩
    · exact hnone ▸ .missing
    · rw [hdatum]
      obtain ⟨hnull, rfl⟩ | ⟨hpresent, next, ⟨given, hfields, hcursor⟩, rfl⟩ := hpaging
      · exact .null hnull
      · exact .paging hpresent hfields hcursor
  · intro h
    cases hgiven : fields.datum? name with
    | none =>
        rw [hgiven] at h
        cases h
        exact ⟨none, .inl ⟨rfl, rfl⟩, rfl⟩
    | some datum =>
        rw [hgiven] at h
        cases h with
        | null hnull => exact ⟨none, .inr ⟨_, rfl, .inl ⟨hnull, rfl⟩⟩, rfl⟩
        | paging hpresent hfields hcursor =>
            exact ⟨some next, .inr ⟨_, rfl, .inr ⟨hpresent, _, ⟨_, hfields, hcursor⟩, rfl⟩⟩, rfl⟩

theorem pageDecoder_eq_ok_iff {page : Page} : pageDecoder datum = .ok page ↔ datum.IsPage page := by
  have hnodup : ["data", "paging"].Nodup := by decide
  constructor
  · intro h
    obtain ⟨fields, hfields, hbuild⟩ := Decoder.exists_hasFields hnodup h
    simp only [Attempt.seq_eq_done_iff, Attempt.map_eq_done_iff] at hbuild
    obtain ⟨_, paging, ⟨data, hdata, rfl⟩, hpaging, rfl⟩ := hbuild
    exact ⟨_, hfields, Fields.defaulted_entities_iff.mp hdata,
      defaulted_paging_iff.mp ⟨paging, hpaging, rfl⟩⟩
  · rintro ⟨given, hfields, hentities, hnext⟩
    refine Decoder.record_of_hasFields hnodup hfields fun fields hgiven => ?_
    rw [← hgiven "data" (by decide)] at hentities
    rw [← hgiven "paging" (by decide)] at hnext
    obtain ⟨paging, hpaging, hbind⟩ := defaulted_paging_iff.mpr hnext
    simp only [Attempt.seq_eq_done_iff, Attempt.map_eq_done_iff]
    exact ⟨_, paging, ⟨page.data, Fields.defaulted_entities_iff.mpr hentities, rfl⟩, hpaging,
      congrArg (Page.mk page.data) hbind⟩

theorem run_pageDecoder_eq_ok_iff {document : Document} {page : Page} :
    pageDecoder.run document = .ok page ↔ document.IsPage page := by
  have hrun : pageDecoder.run document = .ok page ↔
      pageDecoder document.root = .ok page ∧ document.complete = true := by
    rw [Decoder.run]
    cases pageDecoder document.root <;> cases document.complete <;> simp
  rw [hrun, pageDecoder_eq_ok_iff]
  exact ⟨fun ⟨hroot, hcomplete⟩ => ⟨hcomplete, hroot⟩, fun h => ⟨h.root, h.complete⟩⟩

/-- The document in which a server gives a page. -/
def pageDocument (data : List Json) (paging : Option (Option String)) : Json :=
  .record [("data", some (.array data)),
    ("paging", paging.map fun cursor => .record [("after", cursor.map .string)])]

theorem readable_pageDocument {depth : Nat} {data : List Json} {paging : Option (Option String)}
    (h : ∀ entity ∈ data, Json.Readable depth entity) :
    Json.Readable (depth + 2) (pageDocument data paging) := by
  have hdata : Json.Readable (depth + 1) (.array data) := .array h
  have hcursor : ∀ cursor : Option String,
      Json.Readable (depth + 1) (.record [("after", cursor.map .string)]) := by
    intro cursor
    cases cursor with
    | none => exact .object (List.forall_mem_nil _)
    | some cursor => exact .object (List.forall_mem_singleton.mpr (.string cursor))
  cases paging with
  | none => exact .object (List.forall_mem_singleton.mpr hdata)
  | some cursor =>
      exact .object (List.forall_mem_cons.mpr
        ⟨hdata, List.forall_mem_singleton.mpr (hcursor cursor)⟩)

theorem sorted_pageDocument {data : List Json} {paging : Option (Option String)}
    (h : ∀ entity ∈ data, entity.sorted = entity) :
    (pageDocument data paging).sorted = pageDocument data paging := by
  have hdata : Json.sortedItems data = data := by
    rw [Json.sortedItems_eq_map]
    exact (List.map_congr_left h).trans (List.map_id _)
  have hcursor : ∀ cursor : Option String,
      (Json.record [("after", cursor.map .string)]).sorted =
        .record [("after", cursor.map .string)] := by
    intro cursor
    cases cursor <;> rfl
  let members := Json.present
    [("data", some (.array data)),
      ("paging", paging.map fun cursor => .record [("after", cursor.map .string)])]
  have hmembers : Json.sortedMembers members = members := by
    cases paging <;>
    simp [members, Json.present, Json.sortedMembers, Json.sorted, hdata, hcursor]
  have hkeys : Keyed.Sorted members := by
    cases paging with
    | none => exact List.pairwise_singleton _ _
    | some cursor =>
        have horder : "data" < "paging" := by decide
        exact List.pairwise_pair.mpr horder
  have hdocument : pageDocument data paging = .object members := rfl
  rw [hdocument, Json.sorted, hmembers, Keyed.ofList_of_sorted hkeys]

/-- It is read as that page. -/
theorem pageDecoder_ofJson (data : List Json) (paging : Option (Option String)) :
    pageDecoder (Datum.ofJson (pageDocument data paging)) =
      .ok ⟨data.map Json.sorted, paging.join⟩ := by
  have hpaging : Decoder.Reads pagingDecoder
      fun cursor : Option String => .record [("after", cursor.map .string)] := by
    intro cursor
    refine Decoder.record_ofJson _ (by simp) fun fields hfields => ?_
    have hafter := Fields.optionalText_eq (hfields "after" (by decide))
    rw [hafter]
    rfl
  refine Decoder.record_ofJson _ (by simp) fun fields hfields => ?_
  have hdata : fields.defaulted "data" [] (Decoder.list Decoder.value) =
      .done (data.map Json.sorted) :=
    Fields.defaulted_of_decode (Decoder.list_value_ofJson data) (hfields _ (by decide))
  have hnext : fields.defaulted "paging" none (Decoder.optional pagingDecoder) =
      .done paging := by
    cases paging with
    | none =>
        have hgiven : fields.datum? "paging" = none := hfields "paging" (by decide)
        rw [Fields.defaulted, Option.map_eq_none_iff.mp hgiven]
    | some cursor =>
        have hgiven : (Datum.ofJson (.record [("after", cursor.map .string)])).presence =
            .given := rfl
        refine Fields.defaulted_of_decode ?_ (hfields "paging" (by decide))
        rw [Decoder.optional, hgiven, hpaging cursor]
  rw [hdata, hnext]
  cases paging <;> rfl

end RestClient

/-! ## Answers -/

namespace HttpAnswer

/-- An answer that carries a page: its status says success, and its body is one. -/
inductive Lists : HttpAnswer → Page → Prop where
  | page {status : Nat} {text : String} {page : Page} : 200 ≤ status → status < 300 →
      (Json.readDocument text).IsPage page → Lists (.respond status text) page

/-- An answer that is an error, and the error that it is. -/
inductive Fails : HttpAnswer → CatalogError → Prop where
  | dropped : Fails .drop .network
  | refused {status : Nat} {text : String} : status < 200 ∨ 300 ≤ status →
      Fails (.respond status text) (.refused status text)
  | unreadable {status : Nat} {text : String} : 200 ≤ status → status < 300 →
      (∀ page, ¬(Json.readDocument text).IsPage page) → Fails (.respond status text) .network

variable {status : Nat} {answer : HttpAnswer}

theorem isSuccess_eq_true_iff : isSuccess status = true ↔ 200 ≤ status ∧ status < 300 := by
  rw [isSuccess, Bool.and_eq_true, decide_eq_true_eq, decide_eq_true_eq]

/-- Every answer is a page or an error. -/
theorem lists_or_fails (answer : HttpAnswer) :
    (∃ page, answer.Lists page) ∨ ∃ e, answer.Fails e := by
  cases answer with
  | drop => exact .inr ⟨_, .dropped⟩
  | respond status text =>
      by_cases hstatus : 200 ≤ status ∧ status < 300
      · by_cases hpage : ∃ page, (Json.readDocument text).IsPage page
        · obtain ⟨page, hpage⟩ := hpage
          exact .inl ⟨page, .page hstatus.1 hstatus.2 hpage⟩
        · exact .inr ⟨_, .unreadable hstatus.1 hstatus.2 (not_exists.mp hpage)⟩
      · exact .inr ⟨_, .refused (by omega)⟩

theorem Lists.decoded {page : Page} (h : answer.Lists page) :
    answer.decoded pageDecoder = .ok page := by
  cases h with
  | page hleast hbound hpage =>
      have hstatus := isSuccess_eq_true_iff.mpr ⟨hleast, hbound⟩
      simp only [HttpAnswer.decoded, body, hstatus, if_true, run_pageDecoder_eq_ok_iff.mpr hpage]

theorem Fails.decoded {e : CatalogError} (h : answer.Fails e) :
    answer.decoded pageDecoder = .error e := by
  cases h with
  | dropped => rfl
  | @refused status text hrange =>
      have hstatus : isSuccess status = false := by
        rw [← Bool.not_eq_true, isSuccess_eq_true_iff]
        omega
      simp only [HttpAnswer.decoded, body, hstatus, Bool.false_eq_true, if_false]
  | @unreadable status text hleast hbound hnone =>
      have hstatus := isSuccess_eq_true_iff.mpr ⟨hleast, hbound⟩
      cases hread : pageDecoder.run (Json.readDocument text) with
      | error cause => simp only [HttpAnswer.decoded, body, hstatus, if_true, hread]
      | ok page => exact absurd (run_pageDecoder_eq_ok_iff.mp hread) (hnone page)

/-- A server that writes a page into its answer is understood. -/
theorem Lists.of_pageDocument {data : List Json} {paging : Option (Option String)}
    (hleast : 200 ≤ status) (hbound : status < 300)
    (hreadable : ∀ entity ∈ data, Json.Readable 125 entity)
    (hsorted : ∀ entity ∈ data, entity.sorted = entity) :
    (respond status (pageDocument data paging).render).Lists ⟨data, paging.join⟩ := by
  have hdata : data.map Json.sorted = data := (List.map_congr_left hsorted).trans (List.map_id _)
  refine .page hleast hbound ?_
  rw [Json.readDocument_render (readable_pageDocument hreadable)]
  refine ⟨rfl, pageDecoder_eq_ok_iff.mp ?_⟩
  have hread := pageDecoder_ofJson data paging
  rwa [Datum.ofJson, sorted_pageDocument hsorted, hdata] at hread

end HttpAnswer

end DataQuality

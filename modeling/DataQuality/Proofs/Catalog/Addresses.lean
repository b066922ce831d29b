import DataQuality.Proofs.Catalog.Root
import DataQuality.Proofs.Effect

/-!
# Names in addresses

A single entity is asked for, and a result is attached, at an address that holds the name of the
entity as one segment of its path. What is behind the address reads that segment as the name that it
was, unless the name is one or two dots or holds tabs or line breaks. Of all other names, no two
share an address.
-/

namespace DataQuality

open Url

namespace RestClient

variable {config : CatalogConfig} {settings : RestClient}

/-- An action sends exactly one request, if the client is open and the server can be reached. -/
def Sends {α : Type} (action : CatalogM Connection α) (request : HttpRequest) : Prop :=
  ∀ world : World Connection, world.state.closed = false →
    world.state.answers ≠ [] ∨ world.state.reachable = true →
      (Effect.attempt action world).2.state.received = world.state.received ++ [request]

theorem sends_exchange {α : Type} (request : HttpRequest)
    (read : HttpAnswer → Except CatalogError α) :
    Sends (ExceptT.mk (Effect.ofState (exchange request read))) request := by
  intro world hopen hserved
  change (exchange request read world.state).2.received = _
  have hclosed : ¬world.state.closed = true := Bool.eq_false_iff.mp hopen
  rw [exchange, if_neg hclosed, Connection.send]
  cases hanswers : world.state.answers with
  | nil =>
      have hreachable := hserved.resolve_left fun hne => hne hanswers
      simp only [hreachable, if_true]
  | cons answer rest => rfl

/-- The request that attaches a result to a test case. -/
def resultRequest (settings : RestClient) (name : String) (result : TestCaseResult) :
    HttpRequest :=
  settings.putRequest (settings.url .testCase [name, "testCaseResult"]) result.toJson

/-! ## Segments -/

/-- The segments of the root, without the empty one at its end. -/
def baseSegments (settings : RestClient) : List (List UInt8) :=
  (stem settings.root.path).map percentDecode

/-- Texts as the segments that they are read as. -/
def textSegments (names : List String) : List (List UInt8) :=
  names.map fun name => textBytes name.toList

theorem textSegments_injective : Function.Injective textSegments :=
  List.map_injective_iff.mpr fun _ _ h => String.toList_inj.mp (textBytes_injective h)

/-- The path of the address of a collection. -/
def collectionPath (settings : RestClient) (kind : EntityKind) : List (List Char) :=
  settings.root.path.dropLast ++ kind.collection.map String.toList

theorem map_percentDecode_toList {names : List String}
    (h : ∀ name ∈ names, '%' ∉ name.toList) :
    (names.map String.toList).map percentDecode = textSegments names := by
  rw [List.map_map]
  exact List.map_congr_left fun name hname => percentDecode_of_notMem (h name hname)

theorem map_percentDecode_collectionPath (settings : RestClient) (kind : EntityKind) :
    (settings.collectionPath kind).map percentDecode =
      settings.root.path.dropLast.map percentDecode ++ textSegments kind.collection := by
  rw [collectionPath, List.map_append, map_percentDecode_toList]
  cases kind <;> decide

theorem slashFree_collectionPath (h : ofConfig config = .ok settings) (kind : EntityKind) :
    SlashFree (settings.collectionPath kind) := by
  obtain ⟨secure, origin, rest, hroot⟩ := exists_parts_of_read? (read?_of_ofConfig h)
  have hcollection : SlashFree (kind.collection.map String.toList) := by
    unfold SlashFree
    cases kind <;> decide
  rw [collectionPath, hroot]
  exact (slashFree_parsePath _).dropLast.append hcollection

theorem root_path_ne_nil (h : ofConfig config = .ok settings) : settings.root.path ≠ [] := by
  obtain ⟨secure, origin, rest, hroot⟩ := exists_parts_of_read? (read?_of_ofConfig h)
  rw [hroot]
  exact parsePath_ne_nil _

/-- A text that is added below a collection is read as a segment right behind the base, the
collection and what is between, if the root ends with a slash and the text travels. -/
theorem map_percentDecode_addSegment_eq_iff (hroot : settings.root.path ≠ [])
    (kind : EntityKind) (between : List (List Char)) (name : String) :
    (addSegment (settings.collectionPath kind ++ between) name).map percentDecode =
        settings.baseSegments ++ textSegments kind.collection ++ between.map percentDecode ++
          [textBytes name.toList] ↔
      settings.root.path.getLast? = some [] ∧ Travels name := by
  by_cases hend : settings.root.path.getLast? = some []
  · have hiff := @map_percentDecode_addSegment_iff (settings.collectionPath kind ++ between) name
    rw [List.map_append, map_percentDecode_collectionPath] at hiff
    rw [and_iff_right hend, baseSegments, stem, if_pos hend]
    exact hiff
  · refine iff_of_false (fun hread => ?_) fun h => hend h.1
    -- the last segment of the root is lost, and nothing can make up for it
    have hlength := congrArg List.length hread
    have hadded := length_addSegment_le (settings.collectionPath kind ++ between) name
    have hlast := List.length_pos_of_ne_nil hroot
    rw [baseSegments, stem, if_neg hend] at hlength
    simp [collectionPath, textSegments] at hlength hadded
    omega

section Requests

variable (settings) (kind : EntityKind) (name : String) (fields : List String)
  (result : TestCaseResult)

theorem path_nameRequest :
    (settings.nameRequest kind name fields).url.path =
      addSegment (settings.collectionPath kind ++ ["name".toList]) name := by
  have hname : addSegment (settings.collectionPath kind) "name" =
      settings.collectionPath kind ++ ["name".toList] :=
    addSegment_of_travels (by decide) _
  rw [← hname, nameRequest, getRequest]
  split <;> rfl

theorem path_resultRequest :
    (settings.resultRequest name result).url.path =
      addSegment (settings.collectionPath .testCase) name ++ ["testCaseResult".toList] := by
  have hresult : ∀ path, addSegment path "testCaseResult" = path ++ ["testCaseResult".toList] :=
    addSegment_of_travels (by decide)
  rw [← hresult]
  rfl

variable {settings} (h : ofConfig config = .ok settings)

include h

theorem segments_nameRequest :
    (settings.nameRequest kind name fields).url.segments =
      (addSegment (settings.collectionPath kind ++ ["name".toList]) name).map percentDecode := by
  rw [segments_eq, path_nameRequest]
  rw [path_nameRequest]
  exact ((slashFree_collectionPath h kind).append
    (slashFree_singleton.mpr (by decide))).addSegment name

theorem segments_resultRequest :
    (settings.resultRequest name result).url.segments =
      (addSegment (settings.collectionPath .testCase) name).map percentDecode ++
        [textBytes "testCaseResult".toList] := by
  rw [segments_eq, path_resultRequest, List.map_append, List.map_singleton,
    percentDecode_of_notMem (by decide)]
  rw [path_resultRequest]
  exact ((slashFree_collectionPath h .testCase).addSegment name).append
    (slashFree_singleton.mpr (by decide))

/-- The address of a request for a name is read as base, collection and name. -/
theorem segments_nameRequest_eq_iff :
    (settings.nameRequest kind name fields).url.segments =
        settings.baseSegments ++ textSegments (kind.collection ++ ["name", name]) ↔
      settings.root.path.getLast? = some [] ∧ Travels name := by
  rw [segments_nameRequest kind name fields h,
    ← map_percentDecode_addSegment_eq_iff (root_path_ne_nil h) kind ["name".toList] name,
    List.map_singleton, percentDecode_of_notMem (by decide)]
  simp [textSegments]

theorem segments_resultRequest_eq_iff :
    (settings.resultRequest name result).url.segments =
        settings.baseSegments ++
          textSegments (EntityKind.collection .testCase ++ [name, "testCaseResult"]) ↔
      settings.root.path.getLast? = some [] ∧ Travels name := by
  have htexts : settings.baseSegments ++
      textSegments (EntityKind.collection .testCase ++ [name, "testCaseResult"]) =
        settings.baseSegments ++ textSegments (EntityKind.collection .testCase) ++
          [textBytes name.toList] ++ [textBytes "testCaseResult".toList] := by
    simp [textSegments]
  have hiff := map_percentDecode_addSegment_eq_iff (root_path_ne_nil h) .testCase [] name
  rw [List.append_nil, List.map_nil, List.append_nil] at hiff
  rw [segments_resultRequest name result h, htexts, List.append_left_inj, hiff]

/-- Below whatever the root is, a name that travels is read as it is. -/
theorem segments_nameRequest_of_travels (hname : Travels name) :
    (settings.nameRequest kind name fields).url.segments =
      settings.root.path.dropLast.map percentDecode ++
        textSegments (kind.collection ++ ["name", name]) := by
  rw [segments_nameRequest kind name fields h, map_percentDecode_addSegment_iff.mpr hname,
    List.map_append, map_percentDecode_collectionPath, List.map_singleton,
    percentDecode_of_notMem (by decide)]
  simp [textSegments]

theorem segments_resultRequest_of_travels (hname : Travels name) :
    (settings.resultRequest name result).url.segments =
      settings.root.path.dropLast.map percentDecode ++
        textSegments (EntityKind.collection .testCase ++ [name, "testCaseResult"]) := by
  rw [segments_resultRequest name result h, map_percentDecode_addSegment_iff.mpr hname,
    map_percentDecode_collectionPath]
  simp [textSegments]

end Requests

/-! ## Names -/

theorem append_name_inj {kind kind' : EntityKind} {name name' : String} :
    kind.collection ++ ["name", name] = kind'.collection ++ ["name", name'] ↔
      kind = kind' ∧ name = name' := by
  cases kind <;> cases kind' <;> simp [EntityKind.collection]

theorem append_name_eq_append_result_iff {kind : EntityKind} {name name' : String} :
    kind.collection ++ ["name", name] =
        EntityKind.collection .testCase ++ [name', "testCaseResult"] ↔
      kind = .testCase ∧ name = "testCaseResult" ∧ name' = "name" := by
  cases kind <;> simp [EntityKind.collection, and_comm, eq_comm]

/-- What is behind the address of a request reads base, collection and name there if the root of
the client ends with a slash and the name travels, and only then. Requests of two kinds or for two
names that travel share no address, but that a result for `name` goes where the test case
`testCaseResult` is asked for. -/
theorem names_survive_iff (h : ofConfig config = .ok settings) :
    (∀ kind name fields,
      Sends (settings.client.getByName kind name fields) (settings.nameRequest kind name fields) ∧
      ((settings.nameRequest kind name fields).url.segments =
          settings.baseSegments ++ textSegments (kind.collection ++ ["name", name]) ↔
        settings.root.path.getLast? = some [] ∧ Travels name)) ∧
    (∀ name result,
      Sends (settings.client.addResult name result) (settings.resultRequest name result) ∧
      ((settings.resultRequest name result).url.segments =
          settings.baseSegments ++
            textSegments (EntityKind.collection .testCase ++ [name, "testCaseResult"]) ↔
        settings.root.path.getLast? = some [] ∧ Travels name)) ∧
    ∀ name name', Travels name → Travels name' → ∀ kind kind' fields fields' result result',
      ((settings.nameRequest kind name fields).url.segments =
          (settings.nameRequest kind' name' fields').url.segments ↔
        kind = kind' ∧ name = name') ∧
      ((settings.resultRequest name result).url.segments =
          (settings.resultRequest name' result').url.segments ↔ name = name') ∧
      ((settings.nameRequest kind name fields).url.segments =
          (settings.resultRequest name' result').url.segments ↔
        kind = .testCase ∧ name = "testCaseResult" ∧ name' = "name") := by
  refine ⟨fun kind name fields =>
      ⟨sends_exchange _ _, segments_nameRequest_eq_iff kind name fields h⟩,
    fun name result => ⟨sends_exchange _ _, segments_resultRequest_eq_iff name result h⟩, ?_⟩
  intro name name' hname hname' kind kind' fields fields' result result'
  rw [segments_nameRequest_of_travels kind name fields h hname,
    segments_nameRequest_of_travels kind' name' fields' h hname',
    segments_resultRequest_of_travels name result h hname,
    segments_resultRequest_of_travels name' result' h hname']
  simp only [List.append_right_inj, textSegments_injective.eq_iff]
  refine ⟨append_name_inj, ?_, append_name_eq_append_result_iff⟩
  simp

/-- Slashes, percent signs and dots among other characters do no harm. -/
theorem names_survive_iff_reserved :
    ∃ settings, ofConfig {} = .ok settings ∧
      (settings.nameRequest .table "a/../%2e b" []).url.render =
        "http://localhost:8585/api/v1/tables/name/a%2F..%2F%252e%20b" ∧
      (settings.nameRequest .table "a/../%2e b" []).url.segments =
        settings.baseSegments ++ textSegments ["tables", "name", "a/../%2e b"] := by
  have hrun : ((ofConfig {}).toOption.map fun settings =>
      (settings.root.path.getLast?,
        (settings.nameRequest .table "a/../%2e b" []).url.render)) =
      some (some [], "http://localhost:8585/api/v1/tables/name/a%2F..%2F%252e%20b") := by
    decide +kernel
  obtain ⟨settings, hsettings, hroot⟩ := exists_ok_of_map hrun
  simp only [Prod.mk.injEq] at hroot
  obtain ⟨hend, hrender⟩ := hroot
  obtain ⟨-, hread⟩ := (names_survive_iff hsettings).1 .table "a/../%2e b" []
  exact ⟨settings, hsettings, hrender, hread.mpr ⟨hend, by decide⟩⟩

theorem nameRequest_congr {kind : EntityKind} {name name' : String} {fields : List String}
    (h : ∀ path, addSegment path name = addSegment path name') :
    settings.nameRequest kind name fields = settings.nameRequest kind name' fields := by
  simp only [nameRequest, url, extend, List.foldl_cons, List.foldl_nil, h]

/-- There are names that are asked for at the address of another name, and are read as that one or
not at all. -/
theorem exists_names_confused :
    ∃ settings, ofConfig {} = .ok settings ∧
      settings.nameRequest .table "a\tb" [] = settings.nameRequest .table "ab" [] ∧
      (settings.nameRequest .table "a\tb" []).url.segments =
        settings.baseSegments ++ textSegments ["tables", "name", "ab"] ∧
      settings.nameRequest .table "." [] = settings.nameRequest .table ".." [] ∧
      (settings.nameRequest .table "." []).url.segments =
        settings.baseSegments ++ textSegments ["tables", "name"] := by
  have hrun : ((ofConfig {}).toOption.map fun settings => settings.root.path.getLast?) =
      some (some []) := by
    decide +kernel
  obtain ⟨settings, hsettings, hend⟩ := exists_ok_of_map hrun
  have htab : settings.nameRequest .table "a\tb" [] = settings.nameRequest .table "ab" [] :=
    nameRequest_congr fun path => by
      rw [addSegment_eq, addSegment_eq]
      rfl
  have hdots : settings.nameRequest .table "." [] = settings.nameRequest .table ".." [] :=
    nameRequest_congr fun _ => rfl
  refine ⟨settings, hsettings, htab, ?_, hdots, ?_⟩
  · rw [htab]
    exact (segments_nameRequest_eq_iff .table "ab" [] hsettings).mpr ⟨hend, by decide⟩
  · have hskipped : addSegment (settings.collectionPath .table ++ ["name".toList]) "." =
        settings.collectionPath .table ++ ["name".toList] := rfl
    rw [segments_nameRequest .table "." [] hsettings, hskipped, List.map_append,
      map_percentDecode_collectionPath, List.map_singleton, percentDecode_of_notMem (by decide),
      baseSegments, stem, if_pos hend]
    simp [textSegments, EntityKind.collection]

end RestClient

end DataQuality

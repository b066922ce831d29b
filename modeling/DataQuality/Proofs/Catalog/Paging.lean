import DataQuality.Proofs.Catalog.Page
import DataQuality.Proofs.Effect
import DataQuality.Proofs.Settles
import DataQuality.Proofs.Url.Form
import Mathlib.Data.List.Forall2

/-!
# Listing page by page

A listing asks for one page after the other, as long as pages name a cursor, and gives the entities
of all of them in order. Every request asks for the same, but for the cursor, which the server
reads as it wrote it. The first answer that is an error ends the listing with that error.
-/

namespace DataQuality

open RestClient

/-! ## Requests -/

/-- The names and values that a server reads in the query of a request. -/
def HttpRequest.parameters? (request : HttpRequest) : Option (List (String × String)) :=
  request.url.query.bind Url.formRead?

namespace RestClient

variable (settings : RestClient) (kind : EntityKind) (fields : List String) (filter : Filter)

/-- A request for the page of a cursor, as a server understands it: limit, fields and filter are
the same for every page, and the cursor is the one that it gave. -/
structure AsksForPage (cursor : Option String) (request : HttpRequest) : Prop where
  method_eq : request.method = .get
  collection_eq : { request.url with query := none } = settings.url kind []
  parameters_eq : request.parameters? =
    some ([("limit", toString settings.config.pageSize.toNat)] ++
      (if fields = [] then [] else [("fields", ",".intercalate fields)]) ++ filter ++
      cursor.toList.map fun cursor => ("after", cursor))

/-- Without fields there is no parameter for them, and several are one parameter. -/
theorem fieldPairs_eq (fields : List String) :
    fieldPairs fields = if fields = [] then [] else [("fields", ",".intercalate fields)] := by
  cases fields <;> rfl

theorem asksForPage_pageRequest (cursor : Option String) :
    AsksForPage settings kind fields filter cursor
      (settings.pageRequest kind fields filter cursor) where
  method_eq := rfl
  collection_eq := rfl
  parameters_eq := by
    rw [← fieldPairs_eq]
    exact Url.formRead?_formPairs _

/-! ## Pages one after the other -/

/-- Answers that carry pages, each with the cursor of the next. -/
abbrev Continues (answers : List HttpAnswer) (pages : List (List Json × String)) : Prop :=
  List.Forall₂ (fun answer page => answer.Lists ⟨page.1, some page.2⟩) answers pages

variable {request : Option String → HttpRequest} {reachable : Bool}
  {front rest : List HttpAnswer} {last : HttpAnswer} {pages : List (List Json × String)}

/-- Reading goes through the pages that have a next to an answer where it ends, with one request
for each, the cursor of which the page before has given. -/
theorem readPages_append (h : Continues front pages) {ended : Except CatalogError (List Json)}
    (hlast : ∀ cursor,
      readPages request reachable cursor (last :: rest) = (ended, [request cursor], rest))
    (cursor : Option String) :
    readPages request reachable cursor (front ++ last :: rest) =
      (ended.map (pages.flatMap (·.1) ++ ·),
        (cursor :: pages.map fun page => some page.2).map request, rest) := by
  induction h generalizing cursor with
  | nil =>
      rw [List.nil_append, hlast]
      cases ended with
      | ok data => rfl
      | error e => rfl
  | cons hpage _ ih =>
      rw [List.cons_append, readPages, hpage.decoded]
      simp only [ih]
      cases ended with
      | ok data => simp [Except.map]
      | error e => rfl

theorem readPages_of_lists {data : List Json} (h : last.Lists ⟨data, none⟩)
    (cursor : Option String) :
    readPages request reachable cursor (last :: rest) = (.ok data, [request cursor], rest) := by
  rw [readPages, h.decoded]

theorem readPages_of_fails {e : CatalogError} (h : last.Fails e) (cursor : Option String) :
    readPages request reachable cursor (last :: rest) = (.error e, [request cursor], rest) := by
  rw [readPages, h.decoded]

/-- The connection after requests that took its answers up to the given rest. -/
def served (connection : Connection) (requests : List HttpRequest) (rest : List HttpAnswer) :
    Connection :=
  { connection with answers := rest, received := connection.received ++ requests }

theorem listPages_append (h : Continues front pages) {ended : Except CatalogError (List Json)}
    {connection : Connection} (hopen : connection.closed = false)
    (hanswers : connection.answers = front ++ last :: rest)
    (hlast : ∀ cursor, readPages request connection.reachable cursor (last :: rest) =
      (ended, [request cursor], rest)) :
    listPages request connection =
      (ended.map (pages.flatMap (·.1) ++ ·),
        served connection ((none :: pages.map fun page => some page.2).map request) rest) := by
  have hclosed : ¬connection.closed = true := Bool.eq_false_iff.mp hopen
  rw [listPages, if_neg hclosed, hanswers, readPages_append h hlast]
  rfl

/-- Listing gives the entities of all pages, in order, if every page but the last names the next.
It asks for each page once, the first without a cursor and every other with the cursor of the page
before. If an answer is an error instead, listing ends with that error, right after it. -/
theorem listEntities_exhaustive (hfront : Continues front pages) {world : World Connection}
    (hopen : world.state.closed = false) (hanswers : world.state.answers = front ++ last :: rest) :
    ∃ requests,
      List.Forall₂ (AsksForPage settings kind fields filter)
        (none :: pages.map fun page => some page.2) requests ∧
      (∀ data, last.Lists ⟨data, none⟩ → ∃ journal,
        Effect.attempt (settings.client.listEntities kind fields filter) world =
          (.ok (pages.flatMap (·.1) ++ data), ⟨served world.state requests rest, journal⟩)) ∧
      ∀ e, last.Fails e →
        Effect.attempt (settings.client.listEntities kind fields filter) world =
          (.error e, ⟨served world.state requests rest, world.journal⟩) := by
  let cursors : List (Option String) := none :: pages.map fun page => some page.2
  have hasked : List.Forall₂ (AsksForPage settings kind fields filter) cursors
      (cursors.map (settings.pageRequest kind fields filter)) := by
    apply List.forall₂_map_right_iff.mpr
    apply List.forall₂_same.mpr
    intro cursor _
    exact asksForPage_pageRequest settings kind fields filter cursor
  have hrun : Effect.attempt (ExceptT.mk (Effect.ofState
      (listPages (settings.pageRequest kind fields filter)))) world =
        ((listPages (settings.pageRequest kind fields filter) world.state).1,
          ⟨(listPages (settings.pageRequest kind fields filter) world.state).2,
            world.journal⟩) := rfl
  refine ⟨_, hasked, ?_, ?_⟩
  · intro data hlast
    rw [listPages_append hfront hopen hanswers (readPages_of_lists hlast)] at hrun
    exact ⟨_, Effect.attempt_bind_ok hrun _⟩
  · intro e hlast
    rw [listPages_append hfront hopen hanswers (readPages_of_fails hlast)] at hrun
    exact Effect.attempt_bind_error hrun _

/-- A page whose cursor is full of reserved characters. -/
def reservedPage : HttpAnswer :=
  .respond 200 (pageDocument [.int 1] (some (some "1&2=+ %é"))).render

def endPage : HttpAnswer :=
  .respond 200 (pageDocument [.int 2] none).render

/-- Both pages are listed, but none if the second answer is an error. -/
theorem listEntities_exhaustive_reserved :
    ∃ settings requests tried journal,
      RestClient.ofConfig {} = .ok settings ∧
      Effect.attempt
          (settings.client.listEntities .table ["owners", "tags"] [("database", "a&b")])
          ⟨{ answers := [reservedPage, endPage, .drop] }, []⟩ =
        (.ok [.int 1, .int 2], ⟨{ answers := [.drop], received := requests }, journal⟩) ∧
      requests.map HttpRequest.parameters? =
        [some [("limit", "100"), ("fields", "owners,tags"), ("database", "a&b")],
          some [("limit", "100"), ("fields", "owners,tags"), ("database", "a&b"),
            ("after", "1&2=+ %é")]] ∧
      Effect.attempt
          (settings.client.listEntities .table ["owners", "tags"] [("database", "a&b")])
          ⟨{ answers := [reservedPage, .respond 503 "busy", endPage] }, []⟩ =
        (.error (.refused 503 "busy"), ⟨{ answers := [endPage], received := tried }, []⟩) ∧
      tried.length = 2 := by
  have hrun : (RestClient.ofConfig {}).toOption.map (·.config.pageSize) = some 100 := by
    decide +kernel
  obtain ⟨settings, hsettings, hpageSize⟩ := exists_ok_of_map hrun
  have hreserved : reservedPage.Lists ⟨[.int 1], some "1&2=+ %é"⟩ :=
    .of_pageDocument (by decide) (by decide)
      (List.forall_mem_singleton.mpr (.int ⟨by decide, by decide⟩))
      (List.forall_mem_singleton.mpr rfl)
  have hend : endPage.Lists ⟨[.int 2], none⟩ :=
    .of_pageDocument (by decide) (by decide)
      (List.forall_mem_singleton.mpr (.int ⟨by decide, by decide⟩))
      (List.forall_mem_singleton.mpr rfl)
  have hfront : Continues [reservedPage] [([.int 1], "1&2=+ %é")] := .cons hreserved .nil
  let world : World Connection := ⟨{ answers := [reservedPage, endPage, .drop] }, []⟩
  let busy : World Connection :=
    ⟨{ answers := [reservedPage, .respond 503 "busy", endPage] }, []⟩
  have hopen : world.state.closed = false := rfl
  have hbusy : busy.state.closed = false := rfl
  obtain ⟨requests, hasked, hlisted, -⟩ :=
    listEntities_exhaustive settings .table ["owners", "tags"] [("database", "a&b")] hfront hopen
      rfl
  obtain ⟨tried, htried, -, hfailed⟩ :=
    listEntities_exhaustive settings .table ["owners", "tags"] [("database", "a&b")] hfront hbusy
      rfl
  obtain ⟨journal, hrun⟩ := hlisted [.int 2] hend
  refine ⟨settings, requests, tried, journal, hsettings, hrun, ?_,
    hfailed _ (.refused (by decide)), htried.length_eq.symm⟩
  cases hasked with
  | cons hfirst hrest =>
      cases hrest with
      | cons hsecond hrest =>
          cases hrest
          rw [List.map_cons, List.map_cons, hfirst.parameters_eq, hsecond.parameters_eq, hpageSize]
          rfl

end RestClient

end DataQuality

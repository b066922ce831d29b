import DataQuality.Proofs.Catalog.Addresses
import DataQuality.Proofs.Catalog.LifeCycle
import DataQuality.Proofs.Document.Untyped
import DataQuality.Proofs.Json.Text

/-!
# What answers mean

An open client sends one request for a call, but for the connection of a service that carries it
none. What becomes of the call depends on what the request meets alone. A status that says that
nothing is there is understood so by look-ups by name, and is an error to all other calls, as any
status that is no success is to all of them. Listing, which sends more than one request, is not
among these calls, and redirects are not followed.
-/

namespace DataQuality

/-! ## Values in answers -/

/-- A document that is read without a type gives the value that its text stands for, if any. -/
theorem Decoder.run_value_readDocument (text : String) :
    Decoder.run Decoder.value (Json.readDocument text) =
      match Json.read? text with
      | some value => .ok value
      | none => .error .malformed := by
  simp only [Decoder.run, Decoder.value, Json.read?]
  cases (Json.readDocument text).root.value? with
  | none => cases (Json.readDocument text).complete <;> rfl
  | some value => cases (Json.readDocument text).complete <;> rfl

namespace HttpAnswer

variable {status : Nat} {text : String} {answer : HttpAnswer} {value : Json}

/-- An answer that carries a value: its status says success, and its body stands for the value. -/
inductive Carries : HttpAnswer → Json → Prop where
  | value {status : Nat} {text : String} {value : Json} : isSuccess status = true →
      Json.read? text = some value → Carries (.respond status text) value

/-- A server that writes a readable value into its answer is understood. -/
theorem Carries.of_readable (hstatus : isSuccess status = true)
    (hreadable : Json.Readable Json.depthLimit value) (hsorted : value.sorted = value) :
    (respond status value.render).Carries value := by
  have hvalue := Datum.value?_ofSorted_sorted value
  rw [hsorted] at hvalue
  refine .value hstatus ?_
  rw [Json.read?, Json.readDocument_render hreadable]
  exact hvalue

theorem body_of_success (h : isSuccess status = true) : (respond status text).body = .ok text := by
  rw [body, if_pos h]

theorem body_of_rejected (h : isSuccess status = false) :
    (respond status text).body = .error (.refused status text) := by
  rw [body, h, if_neg Bool.false_ne_true]

theorem decoded_of_rejected {α : Type} (decode : Decoder α) (h : isSuccess status = false) :
    (respond status text).decoded decode = .error (.refused status text) := by
  rw [decoded, body_of_rejected h]

theorem decoded_of_unreadable (h : isSuccess status = true) (htext : Json.read? text = none) :
    (respond status text).decoded Decoder.value = .error .network := by
  simp only [decoded, body_of_success h, Decoder.run_value_readDocument, htext]

theorem Carries.decoded (h : answer.Carries value) :
    answer.decoded Decoder.value = .ok value := by
  cases h with
  | value hstatus htext =>
      simp only [HttpAnswer.decoded, body_of_success hstatus, Decoder.run_value_readDocument, htext]

/-- Unless its status says that nothing is there, a look-up reads an answer as others do. -/
theorem found_of_ne (h : ∀ text, answer ≠ .respond 404 text) :
    answer.found = (answer.decoded Decoder.value).map some := by
  unfold found
  split
  next text => exact absurd rfl (h text)
  next => cases answer.decoded Decoder.value <;> rfl

theorem ne_absent_of_success (h : isSuccess status = true) (text text' : String) :
    respond status text ≠ respond 404 text' := by
  rintro ⟨⟩
  cases h

theorem found_of_rejected (h : isSuccess status = false) (hfound : status ≠ 404) :
    (respond status text).found = .error (.refused status text) := by
  rw [found_of_ne fun text' heq => hfound (HttpAnswer.respond.inj heq).1, decoded_of_rejected _ h]
  rfl

theorem found_of_unreadable (h : isSuccess status = true) (htext : Json.read? text = none) :
    (respond status text).found = .error .network := by
  rw [found_of_ne (ne_absent_of_success h text), decoded_of_unreadable h htext]
  rfl

theorem Carries.found (h : answer.Carries value) : answer.found = .ok (some value) := by
  have hfound : ∀ text, answer ≠ .respond 404 text := by
    cases h with
    | value hstatus _ => exact ne_absent_of_success hstatus _
  rw [found_of_ne hfound, h.decoded]
  rfl

end HttpAnswer

/-! ## What becomes of a call -/

namespace ClientCall

/-- Whether a call looks for an entity by its name. -/
def looksUp : ClientCall → Bool
  | .getByName .. => true
  | .reference .. => true
  | .retrieveConnection .. => true
  | _ => false

/-- Whether a call is answered with something that the catalog says. -/
def asksForValue : ClientCall → Bool
  | .addResult .. => false
  | .close => false
  | _ => true

/-- What becomes of a call that sends a single request, by what the request meets: an answer of
the server or, when the connection is refused, none. -/
inductive Outcome :
    (call : ClientCall) → Option HttpAnswer → Except CatalogError call.Answer → Prop where
  | unreachable {call : ClientCall} : Outcome call none (.error (.unavailable .refused))
  | dropped {call : ClientCall} : Outcome call (some .drop) (.error .network)
  /-- A status that is no success is an error, unless it tells a look-up that nothing is there. -/
  | rejected {call : ClientCall} {status : Nat} {text : String} :
      HttpAnswer.isSuccess status = false → ¬(status = 404 ∧ call.looksUp = true) →
      Outcome call (some (.respond status text)) (.error (.refused status text))
  | unreadable {call : ClientCall} {status : Nat} {text : String} :
      call.asksForValue = true → HttpAnswer.isSuccess status = true → Json.read? text = none →
      Outcome call (some (.respond status text)) (.error .network)
  | noEntity {kind : EntityKind} {name : String} {fields : List String} {text : String} :
      Outcome (.getByName kind name fields) (some (.respond 404 text)) (.ok none)
  | noReferent {kind : EntityKind} {name : String} {text : String} :
      Outcome (.reference kind name) (some (.respond 404 text)) (.error (.notFound kind name))
  | noService {service : DatabaseService} {kind : ServiceKind} {text : String} :
      Outcome (.retrieveConnection service kind) (some (.respond 404 text))
        (.error (.missingConnection service.name))
  | entity {kind : EntityKind} {name : String} {fields : List String} {answer : HttpAnswer}
      {value : Json} : answer.Carries value →
      Outcome (.getByName kind name fields) (some answer) (.ok (some value))
  | created {request : CreateRequest} {answer : HttpAnswer} {value : Json} :
      answer.Carries value → Outcome (.createOrUpdate request) (some answer) (.ok value)
  | referent {kind : EntityKind} {name : String} {answer : HttpAnswer} {value : Json}
      {reference : EntityReference} : answer.Carries value →
      EntityReference.ofEntity kind (Datum.ofJson value) = .ok reference →
      Outcome (.reference kind name) (some answer) (.ok reference)
  /-- What is there is no entity. -/
  | strange {kind : EntityKind} {name : String} {answer : HttpAnswer} {value : Json}
      {cause : DecodeError} : answer.Carries value →
      EntityReference.ofEntity kind (Datum.ofJson value) = .error cause →
      Outcome (.reference kind name) (some answer) (.error (.serialization cause))
  /-- The service has no connection, or one that is null. -/
  | unconnected {service : DatabaseService} {kind : ServiceKind} {answer : HttpAnswer}
      {value : Json} : answer.Carries value →
      value.get? "connection" = none ∨ value.get? "connection" = some .null →
      Outcome (.retrieveConnection service kind) (some answer)
        (.error (.missingConnection service.name))
  | connected {service : DatabaseService} {kind : ServiceKind} {answer : HttpAnswer}
      {value document : Json} {connection : ServiceConnection} : answer.Carries value →
      value.get? "connection" = some document → document ≠ .null →
      ServiceConnection.decoder (Datum.ofJson document) = .ok connection →
      Outcome (.retrieveConnection service kind) (some answer) (.ok connection)
  /-- What the service has for a connection is none. -/
  | misconnected {service : DatabaseService} {kind : ServiceKind} {answer : HttpAnswer}
      {value document : Json} {cause : DecodeError} : answer.Carries value →
      value.get? "connection" = some document → document ≠ .null →
      ServiceConnection.decoder (Datum.ofJson document) = .error cause →
      Outcome (.retrieveConnection service kind) (some answer) (.error (.serialization cause))
  | attached {name : String} {result : TestCaseResult} {status : Nat} {text : String} :
      HttpAnswer.isSuccess status = true →
      Outcome (.addResult name result) (some (.respond status text)) (.ok ())

end ClientCall

/-! ## One request -/

namespace Connection

/-- What the next request meets: an answer or, when the server is out of reach, none. -/
def upcoming (connection : Connection) : Option HttpAnswer :=
  match connection.answers with
  | answer :: _ => some answer
  | [] => if connection.reachable then some exhausted else none

/-- The connection once a request was sent, which only a server that answers receives. -/
def sent (connection : Connection) (request : HttpRequest) : Connection :=
  match connection.upcoming with
  | some _ =>
      { connection with
        answers := connection.answers.tail, received := connection.received ++ [request] }
  | none => connection

theorem send_eq (connection : Connection) (request : HttpRequest) :
    connection.send request =
      (connection.upcoming.elim (.error (.unavailable .refused)) .ok, connection.sent request) := by
  obtain ⟨answers, reachable, received, closed⟩ := connection
  cases answers with
  | cons answer rest => rfl
  | nil => cases reachable <;> rfl

end Connection

namespace RestClient

variable {settings : RestClient} {call : ClientCall} {request : HttpRequest}
  {world : World Connection} {met : Option HttpAnswer}

/-- The request of a call that sends a single one. -/
inductive SingleRequest (settings : RestClient) : ClientCall → HttpRequest → Prop where
  | getByName (kind : EntityKind) (name : String) (fields : List String) :
      SingleRequest settings (.getByName kind name fields) (settings.nameRequest kind name fields)
  | reference (kind : EntityKind) (name : String) :
      SingleRequest settings (.reference kind name) (settings.nameRequest kind name [])
  | createOrUpdate (request : CreateRequest) :
      SingleRequest settings (.createOrUpdate request)
        (settings.putRequest (settings.url request.kind []) request.toJson)
  /-- A connection that the service carries is not asked for. -/
  | retrieveConnection (service : DatabaseService) (kind : ServiceKind) :
      service.connection = none →
      SingleRequest settings (.retrieveConnection service kind)
        (settings.nameRequest .databaseService service.name ["connection"])
  | addResult (name : String) (result : TestCaseResult) :
      SingleRequest settings (.addResult name result) (settings.resultRequest name result)

/-- An open client makes of a call what it reads in the answer to its request. -/
theorem exchange_of_open {α : Type} {connection : Connection} (hopen : connection.closed = false)
    (request : HttpRequest) (read : HttpAnswer → Except CatalogError α) :
    exchange request read connection =
      (connection.upcoming.elim (.error (.unavailable .refused)) read,
        connection.sent request) := by
  rw [exchange, hopen, if_neg Bool.false_ne_true, Connection.send_eq]
  cases connection.upcoming <;> rfl

theorem attempt_exchange {α : Type} (hopen : world.state.closed = false) (request : HttpRequest)
    (read : HttpAnswer → Except CatalogError α) :
    Effect.attempt (ExceptT.mk (Effect.ofState (exchange request read))) world =
      (world.state.upcoming.elim (.error (.unavailable .refused)) read,
        { world with state := world.state.sent request }) := by
  have hrun : Effect.attempt (ExceptT.mk (Effect.ofState (exchange request read))) world =
      ((exchange request read world.state).1,
        { world with state := (exchange request read world.state).2 }) := rfl
  rw [hrun, exchange_of_open hopen]

/-- A connection that a service does not carry is asked for. -/
theorem retrieve_of_none {service : DatabaseService} (h : service.connection = none) :
    settings.retrieve service =
      exchange (settings.nameRequest .databaseService service.name ["connection"])
        fun answer => answer.found.bind (connectionIn service.name) := by
  funext connection
  unfold retrieve
  rw [h]
  cases hclosed : connection.closed with
  | true => rw [if_pos rfl, exchange, if_pos hclosed]
  | false => rw [if_neg Bool.false_ne_true]

/-- A connection that a service carries is given without asking. -/
theorem attempt_retrieveConnection_carried (hopen : world.state.closed = false)
    {service : DatabaseService} {carried : ServiceConnection}
    (hcarried : service.connection = some carried) (kind : ServiceKind) :
    Effect.attempt (settings.client.retrieveConnection service kind) world =
      (.ok carried, world) := by
  have hrun : Effect.attempt (settings.client.retrieveConnection service kind) world =
      ((settings.retrieve service world.state).1,
        { world with state := (settings.retrieve service world.state).2 }) := rfl
  rw [hrun, retrieve, hopen, if_neg Bool.false_ne_true, hcarried]

/-! ## Every call has its outcome -/

section

variable {kind : EntityKind} {name : String} {service : DatabaseService}

theorem eq_of_outcome_getByName {fields : List String} {outcome : Except CatalogError (Option Json)}
    (h : (ClientCall.getByName kind name fields).Outcome met outcome) :
    met.elim (.error (.unavailable .refused)) HttpAnswer.found = outcome := by
  cases h with
  | unreachable => rfl
  | dropped => rfl
  | rejected hstatus hfound =>
      exact HttpAnswer.found_of_rejected hstatus fun heq => hfound ⟨heq, rfl⟩
  | unreadable _ hstatus htext => exact HttpAnswer.found_of_unreadable hstatus htext
  | noEntity => rfl
  | entity hcarries => exact hcarries.found

theorem eq_of_outcome_createOrUpdate {request : CreateRequest} {outcome : Except CatalogError Json}
    (h : (ClientCall.createOrUpdate request).Outcome met outcome) :
    met.elim (.error (.unavailable .refused)) (HttpAnswer.decoded Decoder.value) = outcome := by
  cases h with
  | unreachable => rfl
  | dropped => rfl
  | rejected hstatus _ => exact HttpAnswer.decoded_of_rejected _ hstatus
  | unreadable _ hstatus htext => exact HttpAnswer.decoded_of_unreadable hstatus htext
  | created hcarries => exact hcarries.decoded

theorem eq_of_outcome_addResult {result : TestCaseResult} {outcome : Except CatalogError Unit}
    (h : (ClientCall.addResult name result).Outcome met outcome) :
    met.elim (.error (.unavailable .refused)) (fun answer => answer.body.map fun _ => ()) =
      outcome := by
  cases h with
  | unreachable => rfl
  | dropped => rfl
  | rejected hstatus _ => rw [Option.elim_some, HttpAnswer.body_of_rejected hstatus]; rfl
  | unreadable hasks _ _ => cases hasks
  | attached hstatus => rw [Option.elim_some, HttpAnswer.body_of_success hstatus]; rfl

theorem eq_of_outcome_reference {outcome : Except CatalogError EntityReference}
    (h : (ClientCall.reference kind name).Outcome met outcome) :
    (met.elim (.error (.unavailable .refused)) HttpAnswer.found).bind
      (CatalogClient.referenceTo kind name) = outcome := by
  cases h with
  | unreachable => rfl
  | dropped => rfl
  | rejected hstatus hfound =>
      rw [Option.elim_some, HttpAnswer.found_of_rejected hstatus fun heq => hfound ⟨heq, rfl⟩]
      rfl
  | unreadable _ hstatus htext =>
      rw [Option.elim_some, HttpAnswer.found_of_unreadable hstatus htext]
      rfl
  | noReferent => rfl
  | referent hcarries hentity =>
      rw [Option.elim_some, hcarries.found]
      exact congrArg (Except.mapError CatalogError.serialization) hentity
  | strange hcarries hentity =>
      rw [Option.elim_some, hcarries.found]
      exact congrArg (Except.mapError CatalogError.serialization) hentity

theorem connectionIn_of_connection {value document : Json}
    (hdocument : value.get? "connection" = some document) (hnull : document ≠ .null) :
    connectionIn name (some value) =
      (ServiceConnection.decoder (Datum.ofJson document)).mapError .serialization := by
  have hkept : (!document.isNull) = true := by
    cases document with
    | null => exact absurd rfl hnull
    | _ => rfl
  rw [connectionIn, Option.bind_some, hdocument, Option.filter_some, if_pos hkept]
  cases hread : ServiceConnection.decoder (Datum.ofJson document) with
  | ok connection => simp only [hread]; rfl
  | error cause => simp only [hread]; rfl

theorem eq_of_outcome_retrieveConnection {serviceKind : ServiceKind}
    {outcome : Except CatalogError ServiceConnection}
    (h : (ClientCall.retrieveConnection service serviceKind).Outcome met outcome) :
    met.elim (.error (.unavailable .refused))
      (fun answer => answer.found.bind (connectionIn service.name)) = outcome := by
  cases h with
  | unreachable => rfl
  | dropped => rfl
  | rejected hstatus hfound =>
      rw [Option.elim_some, HttpAnswer.found_of_rejected hstatus fun heq => hfound ⟨heq, rfl⟩]
      rfl
  | unreadable _ hstatus htext =>
      rw [Option.elim_some, HttpAnswer.found_of_unreadable hstatus htext]
      rfl
  | noService => rfl
  | unconnected hcarries hnone =>
      rw [Option.elim_some, hcarries.found, Except.bind, connectionIn, Option.bind_some]
      obtain hmissing | hnull := hnone
      · rw [hmissing]
        rfl
      · rw [hnull]
        rfl
  | connected hcarries hdocument hnull hconnection =>
      rw [Option.elim_some, hcarries.found, Except.bind,
        connectionIn_of_connection hdocument hnull, hconnection]
      rfl
  | misconnected hcarries hdocument hnull hconnection =>
      rw [Option.elim_some, hcarries.found, Except.bind,
        connectionIn_of_connection hdocument hnull, hconnection]
      rfl

end

theorem SingleRequest.attempt_perform (h : settings.SingleRequest call request)
    (hopen : world.state.closed = false) {outcome : Except CatalogError call.Answer}
    (houtcome : call.Outcome world.state.upcoming outcome) :
    Effect.attempt (settings.client.perform call) world =
      (outcome, { world with state := world.state.sent request }) := by
  cases h with
  | getByName kind name fields =>
      rw [← eq_of_outcome_getByName houtcome]
      exact attempt_exchange hopen _ _
  | createOrUpdate request =>
      rw [← eq_of_outcome_createOrUpdate houtcome]
      exact attempt_exchange hopen _ _
  | addResult name result =>
      rw [← eq_of_outcome_addResult houtcome]
      exact attempt_exchange hopen _ _
  | reference kind name =>
      rw [← eq_of_outcome_reference houtcome]
      exact CatalogClient.attempt_reference (attempt_exchange hopen _ _)
  | retrieveConnection service kind hservice =>
      rw [← eq_of_outcome_retrieveConnection houtcome]
      change Effect.attempt (ExceptT.mk (Effect.ofState (settings.retrieve service))) world = _
      rw [retrieve_of_none hservice]
      exact attempt_exchange hopen _ _

theorem SingleRequest.exists_outcome_of_carries (h : settings.SingleRequest call request)
    {answer : HttpAnswer} {value : Json} (hcarries : answer.Carries value) :
    ∃ outcome, call.Outcome (some answer) outcome := by
  cases h with
  | getByName kind name fields => exact ⟨_, .entity hcarries⟩
  | createOrUpdate request => exact ⟨_, .created hcarries⟩
  | addResult name result =>
      cases hcarries with
      | value hstatus _ => exact ⟨_, .attached hstatus⟩
  | reference kind name =>
      cases hentity : EntityReference.ofEntity kind (Datum.ofJson value) with
      | ok reference => exact ⟨_, .referent hcarries hentity⟩
      | error cause => exact ⟨_, .strange hcarries hentity⟩
  | retrieveConnection service kind _ =>
      cases hdocument : value.get? "connection" with
      | none => exact ⟨_, .unconnected hcarries (.inl hdocument)⟩
      | some document =>
          by_cases hnull : document = .null
          · exact ⟨_, .unconnected hcarries (.inr (hnull ▸ hdocument))⟩
          cases hconnection : ServiceConnection.decoder (Datum.ofJson document) with
          | ok connection => exact ⟨_, .connected hcarries hdocument hnull hconnection⟩
          | error cause => exact ⟨_, .misconnected hcarries hdocument hnull hconnection⟩

/-- Whatever the request of a call meets, something becomes of the call. -/
theorem SingleRequest.exists_outcome (h : settings.SingleRequest call request)
    (met : Option HttpAnswer) : ∃ outcome, call.Outcome met outcome := by
  match met with
  | none => exact ⟨_, .unreachable⟩
  | some .drop => exact ⟨_, .dropped⟩
  | some (.respond status text) =>
      -- absence comes first: to a look-up its status is neither success nor an error
      by_cases habsent : status = 404 ∧ call.looksUp = true
      · obtain ⟨rfl, hlooks⟩ := habsent
        cases h with
        | getByName kind name fields => exact ⟨_, .noEntity⟩
        | reference kind name => exact ⟨_, .noReferent⟩
        | retrieveConnection service kind _ => exact ⟨_, .noService⟩
        | createOrUpdate request => cases hlooks
        | addResult name result => cases hlooks
      cases hstatus : HttpAnswer.isSuccess status with
      | false => exact ⟨_, .rejected hstatus habsent⟩
      | true =>
          cases htext : Json.read? text with
          | some value => exact h.exists_outcome_of_carries (.value hstatus htext)
          | none =>
              cases h with
              | addResult name result => exact ⟨_, .attached hstatus⟩
              | _ => exact ⟨_, .unreadable rfl hstatus htext⟩

/-- An open client sends the request of a call once, and the call has the outcome that belongs to
what the request meets, and no other. A connection that a service carries is given without any. -/
theorem perform_iff_outcome (settings : RestClient) {world : World Connection}
    (hopen : world.state.closed = false) :
    (∀ call request, settings.SingleRequest call request → ∀ outcome after,
      Effect.attempt (settings.client.perform call) world = (outcome, after) ↔
        call.Outcome world.state.upcoming outcome ∧
          after = { world with state := world.state.sent request }) ∧
    ∀ service kind carried, service.connection = some carried →
      Effect.attempt (settings.client.perform (.retrieveConnection service kind)) world =
        (.ok carried, world) := by
  refine ⟨fun call request hrequest outcome after => ⟨fun hrun => ?_, ?_⟩,
    fun service kind carried hcarried => attempt_retrieveConnection_carried hopen hcarried kind⟩
  · -- there is an outcome, and the run ends with every outcome that there is
    obtain ⟨found, hfound⟩ := hrequest.exists_outcome world.state.upcoming
    obtain ⟨rfl, rfl⟩ := Prod.mk.inj ((hrequest.attempt_perform hopen hfound).symm.trans hrun)
    exact ⟨hfound, rfl⟩
  · rintro ⟨houtcome, rfl⟩
    exact hrequest.attempt_perform hopen houtcome

/-- The document of a service whose connection is null. -/
def bareDocument : Json := .object [("connection", .null)]

/-- A service with a connection or without. -/
def shopService (connection : Option ServiceConnection) : DatabaseService :=
  { id := .ofNat 7, name := "shop", fullyQualifiedName := none, serviceType := none, connection }

/-- What is not there for a look-up is an error for a creation, and a connection that is null is
none. -/
theorem perform_iff_outcome_absent :
    ∃ settings, ofConfig {} = .ok settings ∧
      let lost : World Connection := ⟨{ answers := [.respond 404 "gone", .drop] }, []⟩
      let bare : World Connection := ⟨{ answers := [.respond 200 bareDocument.render] }, []⟩
      (Effect.attempt (settings.client.perform (.reference .table "shop.orders")) lost).1 =
        .error (.notFound .table "shop.orders") ∧
      Effect.attempt (settings.client.perform (.createOrUpdate (.testSuite ⟨"nightly", none⟩)))
          lost =
        (.error (.refused 404 "gone"),
          ⟨{ answers := [.drop]
             received := [settings.putRequest (settings.url .testSuite [])
              (CreateRequest.testSuite ⟨"nightly", none⟩).toJson] }, []⟩) ∧
      Effect.attempt (settings.client.perform
          (.retrieveConnection (shopService none) .databaseService)) bare =
        (.error (.missingConnection "shop"),
          ⟨{ received := [settings.nameRequest .databaseService "shop" ["connection"]] }, []⟩) ∧
      Effect.attempt (settings.client.perform
          (.retrieveConnection (shopService (some ⟨.null⟩)) .databaseService)) bare =
        (.ok ⟨.null⟩, bare) := by
  have hrun : ((ofConfig {}).toOption.map fun settings => settings.config.pageSize) =
      some 100 := by
    decide +kernel
  obtain ⟨settings, hsettings, -⟩ := exists_ok_of_map hrun
  refine ⟨settings, hsettings, ?_⟩
  intro lost bare
  have hlost : lost.state.closed = false := rfl
  have hbare : bare.state.closed = false := rfl
  have hcarries : (HttpAnswer.respond 200 bareDocument.render).Carries bareDocument :=
    .of_readable rfl (.object (List.forall_mem_singleton.mpr .null)) rfl
  refine ⟨?_, ?_, ?_, ?_⟩
  · exact congrArg Prod.fst (((perform_iff_outcome settings hlost).1 _ _
      (.reference .table "shop.orders") _ _).mpr ⟨.noReferent, rfl⟩)
  · exact ((perform_iff_outcome settings hlost).1 _ _
      (.createOrUpdate (.testSuite ⟨"nightly", none⟩)) _ _).mpr
        ⟨.rejected rfl fun h => Bool.false_ne_true h.2, rfl⟩
  · exact ((perform_iff_outcome settings hbare).1 _ _
      (.retrieveConnection (shopService none) .databaseService rfl) _ _).mpr
        ⟨.unconnected hcarries (.inr rfl), rfl⟩
  · exact (perform_iff_outcome settings hbare).2 _ _ _ rfl

end RestClient

end DataQuality

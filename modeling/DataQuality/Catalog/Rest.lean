import DataQuality.Catalog.Client
import DataQuality.Catalog.Exchange
import DataQuality.Text.Basic

/-!
# Catalog over the network

A client of a catalog that is reached over the network. Entities of a kind are a collection below
the root of the interface; a single one is found by its name, all of them page by page. Every
operation of an open client sends one request, except that listing sends one for each page and
that a connection which a service carries is not asked for.
-/

namespace DataQuality

/-- A client with its settings, the root of the interface, and what it says about itself. -/
structure RestClient where
  config : CatalogConfig
  root : Url
  authorization : Option String

namespace RestClient

/-- Whether a character may stand in a header. -/
def inHeader (c : Char) : Bool :=
  c == '\t' || (32 ≤ c.toNat && c.toNat != 127)

/-- The text of an address without the slashes at its end. -/
def trimSlashes (cs : List Char) : List Char :=
  (cs.reverse.dropWhile (· == '/')).reverse

/-- The root of the interface at an address. -/
def rootOf (hostPort : String) : Except InvalidClient Url :=
  match Url.parse? (trimSlashes hostPort.toList ++ "/v1/".toList) with
  | none => .error (.settings .noScheme)
  | some (.error cause) => .error (.address hostPort cause)
  | some (.ok url) => .ok url

/-- What a client says about itself. -/
def authorizationOf (config : CatalogConfig) : Except InvalidClient (Option String) :=
  match config.authProvider with
  | .noAuth => .ok none
  | .token =>
      let token := config.jwtToken.getD ""
      if token.toList.all inHeader then .ok (some s!"Bearer {token}") else .error .token

/-- What a client says about itself that has a name and a password. -/
def basicAuthorization (credentials : List Char) : String :=
  s!"Basic {String.ofList (Text.base64 (String.ofList credentials).toUTF8.toList)}"

/-- The client with given settings. A name in the address counts more than a token. -/
def ofConfig (config : CatalogConfig) : Except InvalidClient RestClient := do
  match config.validate with
  | .error cause => throw (.settings cause)
  | .ok () =>
      let root ← rootOf config.hostPort
      let authorization ← authorizationOf config
      return ⟨config, root, root.credentials?.map basicAuthorization <|> authorization⟩

/-- The address of a collection, or of something below it. -/
def url (client : RestClient) (kind : EntityKind) (segments : List String) : Url :=
  (client.root.join kind.collection).extend segments

def getRequest (client : RestClient) (url : Url) : HttpRequest :=
  { method := .get, url, authorization := client.authorization, body := none }

/-- A request that sends a document. -/
def putRequest (client : RestClient) (url : Url) (body : Json) : HttpRequest :=
  { method := .put, url, authorization := client.authorization, body := some body }

/-- The part of a query that names fields; absent when there are none. -/
def fieldPairs (fields : List String) : List (String × String) :=
  if fields.isEmpty then [] else [("fields", ",".intercalate fields)]

def nameRequest (client : RestClient) (kind : EntityKind) (name : String)
    (fields : List String) : HttpRequest :=
  let url := client.url kind ["name", name]
  client.getRequest (if fields.isEmpty then url else url.withQuery (fieldPairs fields))

def pageRequest (client : RestClient) (kind : EntityKind) (fields : List String) (filter : Filter)
    (cursor : Option String) : HttpRequest :=
  client.getRequest ((client.url kind []).withQuery
    (("limit", toString client.config.pageSize.toNat) :: fieldPairs fields ++ filter ++
      cursor.toList.map fun cursor => ("after", cursor)))

/-- A page of entities and the cursor of the next one. -/
structure Page where
  data : List Json
  next : Option String

/-- The cursor of the next page, one level below the page. -/
def pagingDecoder : Decoder (Option String) :=
  Decoder.record ["after"] fun fields =>
    id <$> fields.defaulted "after" none (Decoder.optional Decoder.text)

def pageDecoder : Decoder Page :=
  Decoder.record ["data", "paging"] fun fields =>
    (fun data paging => ⟨data, paging.bind id⟩)
      <$> fields.defaulted "data" [] (Decoder.list Decoder.value)
      <*> fields.defaulted "paging" none (Decoder.optional pagingDecoder)

/-- Reads pages until one has no next. Gives the entities of all of them, the requests that the
server received and the answers left. -/
def readPages (request : Option String → HttpRequest) (reachable : Bool)
    (cursor : Option String) :
    List HttpAnswer → Except CatalogError (List Json) × List HttpRequest × List HttpAnswer
  | [] =>
      if reachable then
        ((Connection.exhausted.decoded pageDecoder).map (·.data), [request cursor], [])
      else (.error (.unavailable .refused), [], [])
  | answer :: rest =>
      match answer.decoded pageDecoder with
      | .error e => (.error e, [request cursor], rest)
      | .ok ⟨data, none⟩ => (.ok data, [request cursor], rest)
      | .ok ⟨data, some next⟩ =>
          let (more, requests, left) := readPages request reachable (some next) rest
          (more.map (data ++ ·), request cursor :: requests, left)

/-- Lists all entities that the pages of a connection give. -/
def listPages (request : Option String → HttpRequest) (connection : Connection) :
    Except CatalogError (List Json) × Connection :=
  if connection.closed then (.error .closed, connection)
  else
    let (entities, requests, left) :=
      readPages request connection.reachable none connection.answers
    (entities,
      { connection with answers := left, received := connection.received ++ requests })

/-- Sends a request, unless the client is closed, and makes something of the answer. -/
def exchange {α : Type} (request : HttpRequest) (read : HttpAnswer → Except CatalogError α)
    (connection : Connection) : Except CatalogError α × Connection :=
  if connection.closed then (.error .closed, connection)
  else
    match connection.send request with
    | (.error e, connection) => (.error e, connection)
    | (.ok answer, connection) => (read answer, connection)

def connectionIn (service : String) (document : Option Json) :
    Except CatalogError ServiceConnection :=
  match (document.bind fun value => value.get? "connection").filter fun c => !c.isNull with
  | none => .error (.missingConnection service)
  | some connection =>
      match ServiceConnection.decoder (Datum.ofJson connection) with
      | .ok connection => .ok connection
      | .error cause => .error (.serialization cause)

def retrieve (client : RestClient) (service : DatabaseService) (connection : Connection) :
    Except CatalogError ServiceConnection × Connection :=
  if connection.closed then (.error .closed, connection)
  else
    match service.connection with
    | some carried => (.ok carried, connection)
    | none =>
        exchange (client.nameRequest .databaseService service.name ["connection"])
          (fun answer => answer.found.bind (connectionIn service.name)) connection

def client (settings : RestClient) : CatalogClient Connection where
  name := "rest"
  getByName kind name fields :=
    .ofState (exchange (settings.nameRequest kind name fields) HttpAnswer.found)
  listEntities kind fields filter := do
    let entities ← ExceptT.mk
      (.ofState (listPages (settings.pageRequest kind fields filter)))
    Effect.note .info s!"Listed {entities.length} {kind.name} entities"
    return entities
  createOrUpdate request :=
    .ofState (exchange (settings.putRequest (settings.url request.kind []) request.toJson)
      (HttpAnswer.decoded Decoder.value))
  retrieveConnection service _ := .ofState (settings.retrieve service)
  addResult name result :=
    .ofState (exchange
      (settings.putRequest (settings.url .testCase [name, "testCaseResult"]) result.toJson)
      fun answer => answer.body.map fun _ => ())
  close := .ofState fun connection => (.ok (), { connection with closed := true })

end RestClient

end DataQuality

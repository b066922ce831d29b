import DataQuality.Catalog.Error
import DataQuality.Json.Reader
import DataQuality.Url.Basic

/-!
# Exchanges with a server

A client sends requests and gets answers, one for each. What the server will answer is given
beforehand, in order; what it received is remembered, in order. When its answers are used up, a
server says that there is nothing, or is out of reach and receives nothing.
-/

namespace DataQuality

/-- What a request does. -/
inductive HttpMethod where
  | get
  | put
  deriving DecidableEq, Repr

def HttpMethod.name : HttpMethod → String
  | .get => "GET"
  | .put => "PUT"

/-- A request as the server receives it. -/
structure HttpRequest where
  method : HttpMethod
  url : Url
  authorization : Option String
  /-- The document that is sent along. -/
  body : Option Json
  deriving Repr

/-- Path and query of a request. -/
def HttpRequest.target (request : HttpRequest) : String :=
  String.ofList request.url.target

/-- What becomes of a request that reached the server. -/
inductive HttpAnswer where
  | respond (status : Nat) (body : String)
  /-- The connection ends without an answer. -/
  | drop
  deriving DecidableEq, Repr

/-- The state of a server and of the client's connection to it. -/
structure Connection where
  /-- What the server will answer. -/
  answers : List HttpAnswer := []
  /-- Whether the server can still be reached when its answers are used up. -/
  reachable : Bool := true
  /-- What the server received. -/
  received : List HttpRequest := []
  /-- Whether the client was closed. -/
  closed : Bool := false

namespace Connection

/-- What a server without further answers says. -/
def exhausted : HttpAnswer := .respond 404 "no response left"

def send (connection : Connection) (request : HttpRequest) :
    Except CatalogError HttpAnswer × Connection :=
  match connection.answers with
  | answer :: rest =>
      (.ok answer,
        { connection with answers := rest, received := connection.received ++ [request] })
  | [] =>
      if connection.reachable then
        (.ok exhausted, { connection with received := connection.received ++ [request] })
      else (.error (.unavailable .refused), connection)

end Connection

namespace HttpAnswer

/-- Whether a status says that the request was carried out. -/
def isSuccess (status : Nat) : Bool :=
  200 ≤ status && status < 300

/-- The body of an answer whose status says that the request was carried out. -/
def body : HttpAnswer → Except CatalogError String
  | .drop => .error .network
  | .respond status text => if isSuccess status then .ok text else .error (.refused status text)

/-- The value in the body of an answer. -/
def decoded {α : Type} (decode : Decoder α) (answer : HttpAnswer) : Except CatalogError α :=
  match answer.body with
  | .error e => .error e
  | .ok text =>
      match decode.run (Json.readDocument text) with
      | .ok a => .ok a
      | .error _ => .error .network

/-- The value in the body of an answer, or nothing when the status says that there is none. -/
def found (answer : HttpAnswer) : Except CatalogError (Option Json) :=
  match answer with
  | .respond 404 _ => .ok none
  | _ =>
      match answer.decoded Decoder.value with
      | .ok value => .ok (some value)
      | .error e => .error e

end HttpAnswer

end DataQuality

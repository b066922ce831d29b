import DataQuality.Catalog.Config
import DataQuality.Catalog.Kind
import DataQuality.Url.Basic

/-!
# Errors of a catalog

Why a catalog did not answer as asked, and the wording of each reason.
-/

namespace DataQuality

/-- Why a request makes no sense. -/
inductive InvalidRequest where
  /-- An entity of one kind was to be created from a request for another. -/
  | kindMismatch (wanted given : EntityKind)
  | linkWithoutTable (link : String)
  deriving DecidableEq, Repr

/-- The wording of a reason. -/
def InvalidRequest.message : InvalidRequest → String
  | .kindMismatch wanted given => s!"cannot create a {wanted.name} from a {given.name} request"
  | .linkWithoutTable link => s!"entity link has no table: {link}"

/-- Why settings give no client. -/
inductive InvalidClient where
  | settings (cause : CatalogConfigError)
  | address (hostPort : String) (cause : UrlError)
  /-- The token holds a character that no header may hold. -/
  | token
  deriving DecidableEq, Repr

/-- The wording of a reason. -/
def InvalidClient.message : InvalidClient → String
  | .settings cause => cause.message
  | .address hostPort cause => s!"Invalid host port {hostPort}: {cause.message}"
  | .token => "Invalid JWT token: failed to parse header value"

/-- Why the catalog cannot be reached. -/
inductive Unavailable where
  | timeout
  | refused
  /-- Any other reason, in words. -/
  | other (message : String)
  deriving DecidableEq, Repr

/-- The wording of a reason. -/
def Unavailable.message : Unavailable → String
  | .timeout => "Request timeout"
  | .refused => "Cannot connect to the catalog"
  | .other message => message

/-- Why a catalog did not answer as asked. -/
inductive CatalogError where
  /-- The connection broke off, or the answer is not JSON. -/
  | network
  /-- A value does not have the form of an entity. -/
  | serialization (cause : DecodeError)
  | notFound (kind : EntityKind) (name : String)
  | missingConnection (service : String)
  | invalidRequest (cause : InvalidRequest)
  | invalidClient (cause : InvalidClient)
  | unavailable (cause : Unavailable)
  /-- The catalog refused, with the status and the text of its answer. -/
  | refused (status : Nat) (message : String)
  | closed
  deriving Repr

/-- The wording of an error; of an error met while reading, only its kind. -/
def CatalogError.message : CatalogError → String
  | .network => "Network error"
  | .serialization _ => "Serialization error"
  | .notFound kind name => s!"{kind.name} not found: {name}"
  | .missingConnection service => s!"No connection available for service {service}"
  | .invalidRequest cause => s!"Invalid request: {cause.message}"
  | .invalidClient cause => s!"Invalid configuration: {cause.message}"
  | .unavailable cause => s!"Service unavailable: {cause.message}"
  | .refused status message => s!"Catalog API returned {status}: {message}"
  | .closed => "Catalog client is closed"

end DataQuality

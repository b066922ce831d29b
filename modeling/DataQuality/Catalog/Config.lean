import DataQuality.Document.Decoder

/-!
# Settings of the catalog client

Where the catalog is, how the client proves who it is, how long it waits and how much it asks for
at once. `validate` names the first setting that cannot work.
-/

namespace DataQuality

/-- How the client proves who it is. -/
inductive AuthProvider where
  | noAuth
  /-- By a token that the catalog issued. -/
  | token
  deriving DecidableEq, Repr

namespace AuthProvider

/-- The word for a way of authentication. -/
def name : AuthProvider → String
  | .noAuth => "no-auth"
  | .token => "openmetadata"

/-- The way of authentication of a given word. -/
def ofName? (word : String) : Option AuthProvider :=
  [noAuth, token].find? fun provider => provider.name == word

end AuthProvider

/-- Where the secrets of connections are kept. -/
inductive SecretsManager where
  /-- In clear, on the service itself. -/
  | noop
  deriving DecidableEq, Repr

namespace SecretsManager

/-- The word for a place of secrets. -/
def name : SecretsManager → String
  | .noop => "noop"

def ofName? (word : String) : Option SecretsManager :=
  [noop].find? fun manager => manager.name == word

end SecretsManager

/-- The settings of the catalog client. -/
structure CatalogConfig where
  hostPort : String := "http://localhost:8585/api"
  authProvider : AuthProvider := .noAuth
  jwtToken : Option String := none
  secretsManager : SecretsManager := .noop
  timeoutSecs : UInt64 := 30
  pageSize : UInt32 := 100
  deriving DecidableEq, Repr

/-- Why settings cannot work. -/
inductive CatalogConfigError where
  | emptyHostPort
  | noScheme
  | noToken
  | zeroTimeout
  | zeroPageSize
  deriving DecidableEq, Repr

def CatalogConfigError.message : CatalogConfigError → String
  | .emptyHostPort => "Host port cannot be empty"
  | .noScheme => "Host port must start with http:// or https://"
  | .noToken => "JWT token is required for the openmetadata auth provider"
  | .zeroTimeout => "Timeout must be greater than 0"
  | .zeroPageSize => "Page size must be greater than 0"

namespace CatalogConfig

/-- Settings in a document; every one may be left out. -/
def decoder : Decoder CatalogConfig :=
  let base : CatalogConfig := {}
  Decoder.record
      ["hostPort", "authProvider", "jwtToken", "secretsManagerProvider", "timeoutSecs", "pageSize"]
      fun fields =>
    CatalogConfig.mk
      <$> fields.defaulted "hostPort" base.hostPort Decoder.text
      <*> fields.defaulted "authProvider" base.authProvider (Decoder.variant AuthProvider.ofName?)
      <*> fields.defaulted "jwtToken" base.jwtToken (Decoder.optional Decoder.text)
      <*> fields.defaulted "secretsManagerProvider" base.secretsManager
        (Decoder.variant SecretsManager.ofName?)
      <*> fields.defaulted "timeoutSecs" base.timeoutSecs Decoder.uint64
      <*> fields.defaulted "pageSize" base.pageSize Decoder.uint32

/-- The document of settings. -/
def toJson (config : CatalogConfig) : Json :=
  .record
    [("hostPort", some (.string config.hostPort)),
      ("authProvider", some (.string config.authProvider.name)),
      ("jwtToken", config.jwtToken.map .string),
      ("secretsManagerProvider", some (.string config.secretsManager.name)),
      ("timeoutSecs", some (.int config.timeoutSecs.toNat)),
      ("pageSize", some (.int config.pageSize.toNat))]

/-- The settings with another address. -/
def withHostPort (config : CatalogConfig) (hostPort : String) : CatalogConfig :=
  { config with hostPort }

/-- The settings with a token, which is then used. -/
def withToken (config : CatalogConfig) (token : String) : CatalogConfig :=
  { config with authProvider := .token, jwtToken := some token }

/-- The settings with a timeout in milliseconds, of which whole seconds count. -/
def withTimeoutMillis (config : CatalogConfig) (millis : Nat) : CatalogConfig :=
  { config with timeoutSecs := UInt64.ofNat (millis / 1000) }

def withPageSize (config : CatalogConfig) (pageSize : UInt32) : CatalogConfig :=
  { config with pageSize }

/-- Whether an address starts with one of the two schemes. -/
def hasScheme (hostPort : String) : Bool :=
  "http://".toList.isPrefixOf hostPort.toList || "https://".toList.isPrefixOf hostPort.toList

/-- Names the first setting that cannot work. -/
def validate (config : CatalogConfig) : Except CatalogConfigError Unit :=
  if config.hostPort = "" then .error .emptyHostPort
  else if !hasScheme config.hostPort then .error .noScheme
  else if config.authProvider = .token ∧ config.jwtToken.getD "" = "" then .error .noToken
  else if config.timeoutSecs = 0 then .error .zeroTimeout
  else if config.pageSize = 0 then .error .zeroPageSize
  else .ok ()

end CatalogConfig

end DataQuality

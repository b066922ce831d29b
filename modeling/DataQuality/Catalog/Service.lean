import DataQuality.Catalog.Reference

/-!
# Database services

A service holds databases. Its connection settings are kept as they are.
-/

namespace DataQuality

/-- The settings for connecting to a service. -/
structure ServiceConnection where
  config : Json
  deriving Repr

namespace ServiceConnection

def decoder : Decoder ServiceConnection :=
  Decoder.record ["config"] fun fields =>
    ServiceConnection.mk <$> fields.required "config" Decoder.value

def toJson (connection : ServiceConnection) : Json :=
  .object [("config", connection.config)]

end ServiceConnection

/-- A service that holds databases. -/
structure DatabaseService where
  id : Uuid
  name : String
  fullyQualifiedName : Option String
  serviceType : Option String
  connection : Option ServiceConnection
  deriving Repr

namespace DatabaseService

def decoder : Decoder DatabaseService :=
  Decoder.record ["id", "name", "fullyQualifiedName", "serviceType", "connection"] fun fields =>
    DatabaseService.mk
      <$> fields.required "id" Uuid.decoder
      <*> fields.required "name" Decoder.text
      <*> fields.defaulted "fullyQualifiedName" none (Decoder.optional Decoder.text)
      <*> fields.defaulted "serviceType" none (Decoder.optional Decoder.text)
      <*> fields.defaulted "connection" none (Decoder.optional ServiceConnection.decoder)

def toJson (service : DatabaseService) : Json :=
  .record
    [("id", some service.id.toJson),
      ("name", some (.string service.name)),
      ("fullyQualifiedName", service.fullyQualifiedName.map .string),
      ("serviceType", service.serviceType.map .string),
      ("connection", service.connection.map ServiceConnection.toJson)]

end DatabaseService

end DataQuality

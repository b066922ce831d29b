import DataQuality.Catalog.TestCase
import DataQuality.Catalog.Table
import DataQuality.Catalog.Service

/-!
# Entities

What the entities of all kinds have in common: an identifier, a name, a fully qualified name if
the catalog gave one, and a document that can be read back.
-/

namespace DataQuality

class Entity (α : Type) where
  kind : EntityKind
  id : α → Uuid
  name : α → String
  fullyQualifiedName : α → Option String
  decoder : Decoder α
  toJson : α → Json

namespace Entity

variable {α : Type} [Entity α]

def key (entity : α) : String :=
  (fullyQualifiedName entity).getD (name entity)

def reference (entity : α) : EntityReference :=
  { id := id entity
    entityType := (kind α).name
    name := some (name entity)
    fullyQualifiedName := fullyQualifiedName entity
    description := none }

def ofJson (value : Json) : Except DecodeError α :=
  decoder (Datum.ofJson value)

end Entity

instance : Entity TestSuite where
  kind := .testSuite
  id := TestSuite.id
  name := TestSuite.name
  fullyQualifiedName := TestSuite.fullyQualifiedName
  decoder := TestSuite.decoder
  toJson := TestSuite.toJson

instance : Entity TestDefinition where
  kind := .testDefinition
  id := TestDefinition.id
  name := TestDefinition.name
  fullyQualifiedName := TestDefinition.fullyQualifiedName
  decoder := TestDefinition.decoder
  toJson := TestDefinition.toJson

instance : Entity TestCase where
  kind := .testCase
  id := TestCase.id
  name := TestCase.name
  fullyQualifiedName := TestCase.fullyQualifiedName
  decoder := TestCase.decoder
  toJson := TestCase.toJson

instance : Entity Table where
  kind := .table
  id := Table.id
  name := Table.name
  fullyQualifiedName := Table.fullyQualifiedName
  decoder := Table.decoder
  toJson := Table.toJson

instance : Entity DatabaseService where
  kind := .databaseService
  id := DatabaseService.id
  name := DatabaseService.name
  fullyQualifiedName := DatabaseService.fullyQualifiedName
  decoder := DatabaseService.decoder
  toJson := DatabaseService.toJson

end DataQuality

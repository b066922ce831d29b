import DataQuality.Document.Decoder

/-!
# Kinds of entities

The kinds of entities that a catalog keeps, with the words that name each kind: in references and
messages, in the paths of the catalog's interface, and in documents.
-/

namespace DataQuality

inductive EntityKind where
  | testSuite
  | testCase
  | testDefinition
  | table
  | databaseService
  deriving DecidableEq, Repr

namespace EntityKind

/-- The word for the kind in references, messages and documents. -/
def name : EntityKind → String
  | .testSuite => "testSuite"
  | .testCase => "testCase"
  | .testDefinition => "testDefinition"
  | .table => "table"
  | .databaseService => "databaseService"

/-- The path of the entities of a kind below the root of the interface, as its segments. -/
def collection : EntityKind → List String
  | .testSuite => ["testSuite"]
  | .testCase => ["testCase"]
  | .testDefinition => ["testDefinition"]
  | .table => ["tables"]
  | .databaseService => ["services", "databaseServices"]

def all : List EntityKind :=
  [.testSuite, .testCase, .testDefinition, .table, .databaseService]

def ofName? (word : String) : Option EntityKind :=
  all.find? fun kind => kind.name == word

theorem ofName?_name (kind : EntityKind) : ofName? kind.name = some kind := by
  cases kind <;> decide

def decoder : Decoder EntityKind := Decoder.variant ofName?

def toJson (kind : EntityKind) : Json := .string kind.name

end EntityKind

/-- A kind of service whose connection can be asked for. -/
inductive ServiceKind where
  | databaseService
  deriving DecidableEq, Repr

def ServiceKind.name : ServiceKind → String
  | .databaseService => "databaseservice"

end DataQuality

import DataQuality.Catalog.Kind
import DataQuality.Uuid

/-!
# References

A reference points at an entity by its identifier and carries what a reader wants to see of it.
One can be made from the document of any entity, of which only the common fields are looked at.
-/

namespace DataQuality

/-- A pointer to an entity. -/
structure EntityReference where
  id : Uuid
  entityType : String
  name : Option String
  fullyQualifiedName : Option String
  description : Option String
  deriving DecidableEq, Repr

namespace EntityReference

def decoder : Decoder EntityReference :=
  Decoder.record ["id", "type", "name", "fullyQualifiedName", "description"] fun fields =>
    EntityReference.mk
      <$> fields.required "id" Uuid.decoder
      <*> fields.required "type" Decoder.text
      <*> fields.defaulted "name" none (Decoder.optional Decoder.text)
      <*> fields.defaulted "fullyQualifiedName" none (Decoder.optional Decoder.text)
      <*> fields.defaulted "description" none (Decoder.optional Decoder.text)

def toJson (reference : EntityReference) : Json :=
  .record
    [("id", some reference.id.toJson),
      ("type", some (.string reference.entityType)),
      ("name", reference.name.map .string),
      ("fullyQualifiedName", reference.fullyQualifiedName.map .string),
      ("description", reference.description.map .string)]

/-- The reference that the document of an entity of some kind gives. -/
def ofEntity (kind : EntityKind) : Decoder EntityReference :=
  Decoder.record ["id", "name", "fullyQualifiedName", "description"] fun fields =>
    (fun id name fqn description => ⟨id, kind.name, some name, fqn, description⟩)
      <$> fields.required "id" Uuid.decoder
      <*> fields.required "name" Decoder.text
      <*> fields.defaulted "fullyQualifiedName" none (Decoder.optional Decoder.text)
      <*> fields.defaulted "description" none (Decoder.optional Decoder.text)

end EntityReference

end DataQuality

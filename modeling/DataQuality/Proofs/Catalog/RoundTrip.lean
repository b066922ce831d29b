import DataQuality.Catalog.Entity
import DataQuality.Proofs.Uuid

/-!
# Entities and their documents

The documents of suites, test cases and what they consist of are read back as they were. A
reference made from the document of a suite points at the suite.
-/

namespace DataQuality

open Decoder

theorem Parameter.reads_value : Reads valueDecoder Json.string := fun _ => rfl

theorem Parameter.reads : Reads decoder toJson := by
  intro parameter
  refine record_ofJson [("name", some (.string parameter.name)),
    ("value", some (.string parameter.value))] (by simp) fun fields hfields => ?_
  have hname : fields.required "name" Decoder.text = .done parameter.name :=
    Fields.required_eq reads_text (hfields _ (by decide))
  have hvalue : fields.required "value" valueDecoder = .done parameter.value :=
    Fields.required_eq reads_value (hfields _ (by decide))
  rw [hname, hvalue]
  rfl

theorem EntityReference.reads : Reads decoder toJson := by
  intro reference
  refine record_ofJson _ (by simp) fun fields hfields => ?_
  have hid : fields.required "id" Uuid.decoder = .done reference.id :=
    Fields.required_eq Uuid.reads (hfields _ (by decide))
  have htype : fields.required "type" Decoder.text = .done reference.entityType :=
    Fields.required_eq reads_text (hfields _ (by decide))
  have hname := Fields.optionalText_eq (hfields "name" (by decide))
  have hfqn := Fields.optionalText_eq (hfields "fullyQualifiedName" (by decide))
  have hdescription := Fields.optionalText_eq (hfields "description" (by decide))
  rw [hid, htype, hname, hfqn, hdescription]
  rfl

theorem TestSuite.reads : Reads decoder toJson := by
  intro suite
  refine record_ofJson _ (by simp) fun fields hfields => ?_
  have hid : fields.required "id" Uuid.decoder = .done suite.id :=
    Fields.required_eq Uuid.reads (hfields _ (by decide))
  have hname : fields.required "name" Decoder.text = .done suite.name :=
    Fields.required_eq reads_text (hfields _ (by decide))
  have hfqn := Fields.optionalText_eq (hfields "fullyQualifiedName" (by decide))
  have hdescription := Fields.optionalText_eq (hfields "description" (by decide))
  rw [hid, hname, hfqn, hdescription]
  rfl

theorem TestCase.reads : Reads decoder toJson := by
  intro testCase
  refine record_ofJson _ (by simp) fun fields hfields => ?_
  have hid : fields.required "id" Uuid.decoder = .done testCase.id :=
    Fields.required_eq Uuid.reads (hfields _ (by decide))
  have hname : fields.required "name" Decoder.text = .done testCase.name :=
    Fields.required_eq reads_text (hfields _ (by decide))
  have hfqn := Fields.optionalText_eq (hfields "fullyQualifiedName" (by decide))
  have hdescription := Fields.optionalText_eq (hfields "description" (by decide))
  have hlink : fields.required "entityLink" Decoder.text = .done testCase.entityLink :=
    Fields.required_eq reads_text (hfields _ (by decide))
  have hsuite : fields.required "testSuite" EntityReference.decoder =
      .done testCase.testSuite :=
    Fields.required_eq EntityReference.reads (hfields _ (by decide))
  have hdefinition : fields.required "testDefinition" EntityReference.decoder =
      .done testCase.testDefinition :=
    Fields.required_eq EntityReference.reads (hfields _ (by decide))
  have hparameters : fields.defaulted "parameterValues" [] (Decoder.list Parameter.decoder) =
      .done testCase.parameterValues :=
    Fields.defaulted_eq (reads_list Parameter.reads) (hfields _ (by decide))
  rw [hid, hname, hfqn, hdescription, hlink, hsuite, hdefinition, hparameters]
  rfl

/-- The reference that the document of a suite gives. -/
theorem TestSuite.ofEntity_toJson (kind : EntityKind) (suite : TestSuite) :
    EntityReference.ofEntity kind (Datum.ofJson suite.toJson) =
      .ok ⟨suite.id, kind.name, some suite.name, suite.fullyQualifiedName,
        suite.description⟩ := by
  refine record_ofJson _ (by simp) fun fields hfields => ?_
  have hid : fields.required "id" Uuid.decoder = .done suite.id :=
    Fields.required_eq Uuid.reads (hfields _ (by decide))
  have hname : fields.required "name" Decoder.text = .done suite.name :=
    Fields.required_eq reads_text (hfields _ (by decide))
  have hfqn := Fields.optionalText_eq (hfields "fullyQualifiedName" (by decide))
  have hdescription := Fields.optionalText_eq (hfields "description" (by decide))
  rw [hid, hname, hfqn, hdescription]
  rfl

end DataQuality

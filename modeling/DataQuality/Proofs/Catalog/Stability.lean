import DataQuality.Catalog.Config
import DataQuality.Catalog.Request
import DataQuality.Catalog.Result
import DataQuality.Proofs.Catalog.Documents
import DataQuality.Proofs.Document.Stability

/-!
# Stability of the documents of a catalog

Requests, results and settings are read back whatever they are, and so are partitions. The other
parts of tables hold doubles, which need not be finite, or untyped values, and services hold untyped
values; they are stable without being read back.
-/

namespace DataQuality

open Decoder

/-- A record is written as an object, whatever it holds. -/
theorem Json.record_ne_null (members : List (String × Option Json)) :
    Json.record members ≠ .null := Json.noConfusion

/-! ## Numbers and words -/

namespace Decoder

/-- A whole number is read back if it is not too large. -/
theorem whole_ofJson_natCast {n bound : Nat} (h : n ≤ bound) :
    whole 0 bound (Datum.ofJson (.int n)) = .ok (n : Int) :=
  if_pos ⟨Int.natCast_nonneg n, Int.ofNat_le.mpr h⟩

theorem reads_uint64 : Reads uint64 fun n => .int n.toNat := by
  intro n
  have hwhole : whole 0 UInt64.size.pred (Datum.ofJson (.int n.toNat)) = .ok (n.toNat : Int) :=
    whole_ofJson_natCast (Nat.le_pred_of_lt n.toNat_lt_size)
  rw [uint64, hwhole]
  exact congrArg Except.ok UInt64.ofNat_toNat

theorem reads_uint32 : Reads uint32 fun n => .int n.toNat := by
  intro n
  have hwhole : whole 0 UInt32.size.pred (Datum.ofJson (.int n.toNat)) = .ok (n.toNat : Int) :=
    whole_ofJson_natCast (Nat.le_pred_of_lt n.toNat_lt_size)
  rw [uint32, hwhole]
  exact congrArg Except.ok UInt32.ofNat_toNat

theorem reads_strings : Reads (list text) Json.strings :=
  reads_list reads_text

/-- An alternative is read back if its word leads to it. -/
theorem reads_variant {α : Type} {choose : String → Option α} {word : α → String}
    (h : ∀ a, choose (word a) = some a) : Reads (variant choose) fun a => .string (word a) := by
  intro a
  have hdatum : Datum.ofJson (.string (word a)) = .scalar (.ofText (word a)) := rfl
  have hchosen : (Scalar.ofText (word a)).variant.bind choose = some a := h a
  unfold variant
  simp only [hdatum, hchosen]

end Decoder

theorem AuthProvider.ofName?_name (provider : AuthProvider) :
    ofName? provider.name = some provider := by
  cases provider <;> decide

theorem SecretsManager.ofName?_name (manager : SecretsManager) :
    ofName? manager.name = some manager := by
  cases manager
  decide

/-! ## What is read back -/

theorem TablePartition.reads : Reads decoder toJson := by
  intro partition
  refine record_ofJson _ (by simp) fun fields hfields => ?_
  have hcolumns : fields.defaulted "columns" [] (Decoder.list Decoder.text) =
      .done partition.columns :=
    Fields.defaulted_eq reads_strings (hfields _ (by decide))
  have hintervalType : fields.required "intervalType" IntervalType.decoder =
      .done partition.intervalType :=
    Fields.required_eq IntervalType.reads (hfields _ (by decide))
  have hinterval := Fields.optional_eq reads_int64 (fun _ => Json.noConfusion)
    (hfields "interval" (by decide))
  rw [hcolumns, hintervalType, hinterval]
  rfl

theorem CreateTestSuite.reads : Reads decoder toJson := by
  intro request
  refine record_ofJson _ (by simp) fun fields hfields => ?_
  have hname : fields.required "name" Decoder.text = .done request.name :=
    Fields.required_eq reads_text (hfields _ (by decide))
  have hdescription := Fields.optionalText_eq (hfields "description" (by decide))
  rw [hname, hdescription]
  rfl

theorem CreateTestCase.reads : Reads decoder toJson := by
  intro request
  refine record_ofJson _ (by simp) fun fields hfields => ?_
  have hname : fields.required "name" Decoder.text = .done request.name :=
    Fields.required_eq reads_text (hfields _ (by decide))
  have hdescription := Fields.optionalText_eq (hfields "description" (by decide))
  have hlink : fields.required "entityLink" Decoder.text = .done request.entityLink :=
    Fields.required_eq reads_text (hfields _ (by decide))
  have hdefinition : fields.required "testDefinition" EntityReference.decoder =
      .done request.testDefinition :=
    Fields.required_eq EntityReference.reads (hfields _ (by decide))
  have hsuite : fields.required "testSuite" EntityReference.decoder = .done request.testSuite :=
    Fields.required_eq EntityReference.reads (hfields _ (by decide))
  have hparameters : fields.defaulted "parameterValues" [] (Decoder.list Parameter.decoder) =
      .done request.parameterValues :=
    Fields.defaulted_eq (reads_list Parameter.reads) (hfields _ (by decide))
  rw [hname, hdescription, hlink, hdefinition, hsuite, hparameters]
  rfl

theorem TestResultValue.reads : Reads decoder toJson := by
  intro value
  refine record_ofJson [("name", some (.string value.name)),
    ("value", some (.string value.value))] (by simp) fun fields hfields => ?_
  have hname : fields.required "name" Decoder.text = .done value.name :=
    Fields.required_eq reads_text (hfields _ (by decide))
  have hvalue : fields.required "value" Decoder.text = .done value.value :=
    Fields.required_eq reads_text (hfields _ (by decide))
  rw [hname, hvalue]
  rfl

theorem TestCaseResult.reads : Reads decoder toJson := by
  intro result
  refine record_ofJson _ (by simp) fun fields hfields => ?_
  have htimestamp : fields.required "timestamp" Decoder.int64 = .done result.timestamp :=
    Fields.required_eq reads_int64 (hfields _ (by decide))
  have hstatus : fields.required "testCaseStatus" TestCaseStatus.decoder = .done result.status :=
    Fields.required_eq (reads_variant TestCaseStatus.ofName?_name) (hfields _ (by decide))
  have hresult := Fields.optionalText_eq (hfields "result" (by decide))
  have hvalues : fields.defaulted "testResultValue" []
      (Decoder.list TestResultValue.decoder) = .done result.values :=
    Fields.defaulted_eq (reads_list TestResultValue.reads) (hfields _ (by decide))
  rw [htimestamp, hstatus, hresult, hvalues]
  rfl

theorem ResultRecord.reads : Reads decoder toJson := by
  intro record
  refine record_ofJson [("testCaseFqn", some (.string record.testCase)),
    ("tableFqn", some (.string record.table)),
    ("testCaseResult", some record.result.toJson)] (by simp) fun fields hfields => ?_
  have htestCase : fields.required "testCaseFqn" Decoder.text = .done record.testCase :=
    Fields.required_eq reads_text (hfields _ (by decide))
  have htable : fields.required "tableFqn" Decoder.text = .done record.table :=
    Fields.required_eq reads_text (hfields _ (by decide))
  have hresult : fields.required "testCaseResult" TestCaseResult.decoder = .done record.result :=
    Fields.required_eq TestCaseResult.reads (hfields _ (by decide))
  rw [htestCase, htable, hresult]
  rfl

/-- Settings are written in full, so that no default is needed to read them back. -/
theorem CatalogConfig.reads : Reads decoder toJson := by
  intro config
  unfold decoder
  refine record_ofJson _ (by simp) fun fields hfields => ?_
  have hhostPort : ∀ fallback, fields.defaulted "hostPort" fallback Decoder.text =
      .done config.hostPort :=
    fun _ => Fields.defaulted_eq reads_text (hfields _ (by decide))
  have hauthProvider : ∀ fallback, fields.defaulted "authProvider" fallback
      (Decoder.variant AuthProvider.ofName?) = .done config.authProvider :=
    fun _ => Fields.defaulted_eq (reads_variant AuthProvider.ofName?_name) (hfields _ (by decide))
  have htoken := Fields.optionalText_eq (hfields "jwtToken" (by decide))
  have hsecrets : ∀ fallback, fields.defaulted "secretsManagerProvider" fallback
      (Decoder.variant SecretsManager.ofName?) = .done config.secretsManager :=
    fun _ => Fields.defaulted_eq (reads_variant SecretsManager.ofName?_name)
      (hfields _ (by decide))
  have htimeout : ∀ fallback, fields.defaulted "timeoutSecs" fallback Decoder.uint64 =
      .done config.timeoutSecs :=
    fun _ => Fields.defaulted_eq reads_uint64 (hfields _ (by decide))
  have hpageSize : ∀ fallback, fields.defaulted "pageSize" fallback Decoder.uint32 =
      .done config.pageSize :=
    fun _ => Fields.defaulted_eq reads_uint32 (hfields _ (by decide))
  rw [hhostPort, hauthProvider, htoken, hsecrets, htimeout, hpageSize]
  rfl

/-! ## What is stable -/

/-- A double that was read is finite, and so it is written as a number. -/
theorem Decoder.stable_float : Stable float Json.ofFloat :=
  fun _ _ h => float_ofFloat (finite_of_float h)

theorem Fields.FromJson.optional_float_again {fields again : Fields} (hjson : fields.FromJson)
    {name : String} {x? : Option Float}
    (hdone : fields.defaulted name none (optional float) = .done x?)
    (hgiven : again.datum? name = (x?.map Json.ofFloat).map Datum.ofJson) :
    again.defaulted name none (optional float) = .done x? := by
  refine hjson.optional_again stable_float (fun value x _ hdecode => ?_) hdone hgiven
  rw [Json.ofFloat, if_pos (finite_of_float hdecode)]
  exact Json.noConfusion

theorem ProfilerConfig.stable : Stable decoder toJson := by
  intro value config h
  obtain ⟨fields, hjson, hbuild⟩ := exists_fields h
  simp only [Attempt.seq_eq_done_iff, Attempt.map_eq_done_iff] at hbuild
  obtain ⟨_, query, ⟨sample, hsample, rfl⟩, -, rfl⟩ := hbuild
  refine record_ofJson _ (by simp) fun again hagain => ?_
  have hquery := Fields.optionalText_eq (hagain "profileQuery" (by decide))
  rw [hjson.optional_float_again hsample (hagain "profileSample" (by decide)), hquery]
  rfl

theorem TableProfile.stable : Stable decoder toJson := by
  intro value profile h
  obtain ⟨fields, hjson, hbuild⟩ := exists_fields h
  simp only [Attempt.seq_eq_done_iff, Attempt.map_eq_done_iff] at hbuild
  obtain ⟨_, columnCount, ⟨_, rowCount, ⟨timestamp, -, rfl⟩, hrows, rfl⟩, hcolumns, rfl⟩ :=
    hbuild
  refine record_ofJson _ (by simp) fun again hagain => ?_
  have htimestamp := Fields.optional_eq reads_int64 (fun _ => Json.noConfusion)
    (hagain "timestamp" (by decide))
  rw [htimestamp, hjson.optional_float_again hrows (hagain "rowCount" (by decide)),
    hjson.optional_float_again hcolumns (hagain "columnCount" (by decide))]
  rfl

theorem ColumnProfile.stable : Stable decoder toJson := by
  intro value profile h
  obtain ⟨fields, hjson, hbuild⟩ := exists_fields h
  simp only [Attempt.seq_eq_done_iff, Attempt.map_eq_done_iff] at hbuild
  obtain ⟨_, max, ⟨_, min, ⟨_, uniqueCount, ⟨_, nullCount, ⟨valuesCount, hvalues, rfl⟩, hnulls,
    rfl⟩, huniques, rfl⟩, hmin, rfl⟩, hmax, rfl⟩ := hbuild
  refine record_ofJson _ (by simp) fun again hagain => ?_
  rw [hjson.optional_float_again hvalues (hagain "valuesCount" (by decide)),
    hjson.optional_float_again hnulls (hagain "nullCount" (by decide)),
    hjson.optional_float_again huniques (hagain "uniqueCount" (by decide)),
    hjson.optional_value_again hmin (hagain "min" (by decide)),
    hjson.optional_value_again hmax (hagain "max" (by decide))]
  rfl

theorem Column.stable : Stable decoder toJson := by
  intro value column h
  obtain ⟨fields, hjson, hbuild⟩ := exists_fields h
  simp only [Attempt.seq_eq_done_iff, Attempt.map_eq_done_iff] at hbuild
  obtain ⟨_, profile, ⟨_, dataType, ⟨name, -, rfl⟩, -, rfl⟩, hprofile, rfl⟩ := hbuild
  refine record_ofJson _ (by simp) fun again hagain => ?_
  have hname : again.required "name" Decoder.text = .done name :=
    Fields.required_eq reads_text (hagain _ (by decide))
  have htype := Fields.optionalText_eq (hagain "dataType" (by decide))
  rw [hname, htype, hjson.optional_again ColumnProfile.stable
    (fun _ _ _ _ => Json.record_ne_null _) hprofile (hagain "profile" (by decide))]
  rfl

theorem Table.stable : Stable decoder toJson := by
  intro value table h
  obtain ⟨fields, hjson, hbuild⟩ := exists_fields h
  simp only [Attempt.seq_eq_done_iff, Attempt.map_eq_done_iff] at hbuild
  obtain ⟨_, profile, ⟨_, partition, ⟨_, profilerConfig, ⟨_, columns, ⟨_, fqn, ⟨_, name,
    ⟨id, -, rfl⟩, -, rfl⟩, -, rfl⟩, hcolumns, rfl⟩, hconfig, rfl⟩, -, rfl⟩, hprofile, rfl⟩ :=
      hbuild
  refine record_ofJson _ (by simp) fun again hagain => ?_
  have hid : again.required "id" Uuid.decoder = .done id :=
    Fields.required_eq Uuid.reads (hagain _ (by decide))
  have hname : again.required "name" Decoder.text = .done name :=
    Fields.required_eq reads_text (hagain _ (by decide))
  have hfqn := Fields.optionalText_eq (hagain "fullyQualifiedName" (by decide))
  have hpartition := Fields.optional_eq TablePartition.reads (fun _ => Json.record_ne_null _)
    (hagain "tablePartition" (by decide))
  rw [hid, hname, hfqn, hjson.list_again Column.stable hcolumns (hagain "columns" (by decide)),
    hjson.optional_again ProfilerConfig.stable (fun _ _ _ _ => Json.record_ne_null _) hconfig
      (hagain "tableProfilerConfig" (by decide)),
    hpartition,
    hjson.optional_again TableProfile.stable (fun _ _ _ _ => Json.record_ne_null _) hprofile
      (hagain "profile" (by decide))]
  rfl

theorem ServiceConnection.stable : Stable decoder toJson := by
  intro value connection h
  obtain ⟨fields, hjson, hbuild⟩ := exists_fields h
  obtain ⟨config, hconfig, rfl⟩ := Attempt.map_eq_done_iff.mp hbuild
  refine record_ofJson [("config", some config)] (by simp) fun again hagain => ?_
  rw [hjson.required_again stable_value hconfig (hagain "config" (by decide))]
  rfl

theorem DatabaseService.stable : Stable decoder toJson := by
  intro value service h
  obtain ⟨fields, hjson, hbuild⟩ := exists_fields h
  simp only [Attempt.seq_eq_done_iff, Attempt.map_eq_done_iff] at hbuild
  obtain ⟨_, connection, ⟨_, serviceType, ⟨_, fqn, ⟨_, name, ⟨id, -, rfl⟩, -, rfl⟩, -, rfl⟩,
    -, rfl⟩, hconnection, rfl⟩ := hbuild
  refine record_ofJson _ (by simp) fun again hagain => ?_
  have hid : again.required "id" Uuid.decoder = .done id :=
    Fields.required_eq Uuid.reads (hagain _ (by decide))
  have hname : again.required "name" Decoder.text = .done name :=
    Fields.required_eq reads_text (hagain _ (by decide))
  have hfqn := Fields.optionalText_eq (hagain "fullyQualifiedName" (by decide))
  have htype := Fields.optionalText_eq (hagain "serviceType" (by decide))
  rw [hid, hname, hfqn, htype, hjson.optional_again ServiceConnection.stable
    (fun _ _ _ _ => Json.noConfusion) hconnection (hagain "connection" (by decide))]
  rfl

end DataQuality

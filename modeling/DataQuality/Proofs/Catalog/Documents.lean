import DataQuality.Proofs.Catalog.RoundTrip
import DataQuality.Proofs.Document.Untyped

/-!
# Entities of every kind in their documents

The document of an entity, of whatever kind, can be read, and what is read has the identifier, the
name and the fully qualified name of the entity. It need not be the same entity: an untyped member
that is `null` counts as absent, and untyped members come back sorted.
-/

namespace DataQuality

/-- A JSON value is there or not, but never unclear. -/
theorem Datum.presence_ofJson_ne_unclear (value : Json) :
    (ofJson value).presence ≠ .unclear := by
  cases value with
  | null => decide
  | _ => exact Presence.noConfusion

/-! ## Accepting documents -/

namespace Decoder

variable {α β : Type}

/-- The decoder reads something from whatever the encoder writes. -/
def Accepts (decode : Decoder β) (encode : α → Json) : Prop :=
  ∀ a, ∃ b, decode (Datum.ofJson (encode a)) = .ok b

theorem Reads.accepts {decode : Decoder α} {encode : α → Json} (h : Reads decode encode) :
    Accepts decode encode :=
  fun a => ⟨a, h a⟩

theorem accepts_value : Accepts value id :=
  fun json => ⟨json.sorted, value_ofJson json⟩

theorem accepts_list {decode : Decoder α} {encode : α → Json} (h : Accepts decode encode) :
    Accepts (list decode) fun as : List α => .array (as.map encode) := by
  intro as
  rw [list_ofJson]
  induction as with
  | nil => exact ⟨[], rfl⟩
  | cons a rest ih =>
      obtain ⟨first, hfirst⟩ := h a
      obtain ⟨others, hothers⟩ := ih
      refine ⟨first :: others, ?_⟩
      simp only [List.map_cons] at hothers ⊢
      rw [items, hfirst, hothers]

/-- What can be read can be read where nothing need be given. -/
theorem Accepts.optional {decode : Decoder α} {encode : α → Json} (h : Accepts decode encode) :
    Accepts (Decoder.optional decode) encode := by
  intro a
  obtain ⟨b, hb⟩ := h a
  unfold Decoder.optional
  cases hpresence : (Datum.ofJson (encode a)).presence with
  | missing => exact ⟨none, rfl⟩
  | unclear => exact absurd hpresence (Datum.presence_ofJson_ne_unclear _)
  | given =>
      rw [hb]
      exact ⟨some b, rfl⟩

theorem finite_of_float {datum : Datum} {x : Float} (h : float datum = .ok x) :
    Decimal.isFinite x = true := by
  unfold float at h
  cases hreal : (datum.value?.bind real?).filter Decimal.isFinite with
  | none =>
      rw [hreal] at h
      cases h
  | some y =>
      rw [hreal] at h
      cases h
      exact (Option.filter_eq_some_iff.mp hreal).2

theorem float_ofFloat {x : Float} (h : Decimal.isFinite x = true) :
    float (Datum.ofJson (Json.ofFloat x)) = .ok x := by
  have hreal : ((Datum.ofJson (.real x)).value?.bind real?).filter Decimal.isFinite = some x :=
    Option.filter_eq_some_iff.mpr ⟨rfl, h⟩
  rw [Json.ofFloat, if_pos h, float, hreal]

/-- A double that is not finite is written as `null`, and that is read as nothing. -/
theorem accepts_float : Accepts (Decoder.optional float) Json.ofFloat := by
  intro x
  cases hfinite : Decimal.isFinite x with
  | false =>
      refine ⟨none, ?_⟩
      rw [Json.ofFloat, hfinite]
      rfl
  | true =>
      have hpresence : (Datum.ofJson (Json.ofFloat x)).presence = .given := by
        rw [Json.ofFloat, if_pos hfinite]
        rfl
      refine ⟨some x, ?_⟩
      rw [Decoder.optional, hpresence, float_ofFloat hfinite]

theorem reads_int64 : Reads int64 fun n => .int n.toInt := by
  intro n
  have hwhole : whole Int64.minValue.toInt Int64.maxValue.toInt
      (Datum.ofJson (.int n.toInt)) = .ok n.toInt :=
    if_pos ⟨Int64.minValue_le_toInt n, Int64.toInt_le n⟩
  rw [int64, hwhole]
  exact congrArg Except.ok (Int64.ofInt_toInt n)

end Decoder

namespace Fields

variable {α : Type} {decode : Decoder α} {encode : α → Json}

/-- A member that a record always gives is read as something. -/
theorem exists_required (h : Decoder.Accepts decode encode) (a : α) :
    ∃ b, ∀ (fields : Fields) name, fields.datum? name = some (Datum.ofJson (encode a)) →
      fields.required name decode = .done b := by
  obtain ⟨b, hb⟩ := h a
  exact ⟨b, fun fields name hgiven => required_of_decode hb hgiven⟩

theorem exists_defaulted (h : Decoder.Accepts decode encode) (a : α) :
    ∃ b, ∀ (fields : Fields) name (fallback : α),
      fields.datum? name = some (Datum.ofJson (encode a)) →
        fields.defaulted name fallback decode = .done b := by
  obtain ⟨b, hb⟩ := h a
  exact ⟨b, fun fields name fallback hgiven => defaulted_of_decode hb hgiven⟩

/-- An optional member is read as something or nothing, whether it is written or not. -/
theorem exists_optional (h : Decoder.Accepts (Decoder.optional decode) encode)
    (a? : Option α) :
    ∃ b?, ∀ (fields : Fields) name,
      fields.datum? name = (a?.map encode).map Datum.ofJson →
        fields.defaulted name none (Decoder.optional decode) = .done b? := by
  cases a? with
  | none =>
      refine ⟨none, fun fields name hgiven => ?_⟩
      rw [defaulted, Option.map_eq_none_iff.mp hgiven]
  | some a =>
      obtain ⟨b?, hb?⟩ := h a
      exact ⟨b?, fun fields name hgiven => defaulted_of_decode hb? hgiven⟩

end Fields

/-! ## What tables consist of -/

open Decoder

theorem IntervalType.reads : Reads decoder fun intervalType => .string intervalType.name := by
  intro intervalType
  cases intervalType <;> rfl

theorem TablePartition.accepts : Accepts decoder toJson := by
  intro partition
  obtain ⟨columns, hcolumns⟩ :=
    Fields.exists_defaulted (accepts_list reads_text.accepts) partition.columns
  obtain ⟨intervalType, hintervalType⟩ :=
    Fields.exists_required IntervalType.reads.accepts partition.intervalType
  obtain ⟨interval, hinterval⟩ :=
    Fields.exists_optional reads_int64.accepts.optional partition.interval
  refine ⟨⟨columns, intervalType, interval⟩, ?_⟩
  refine record_ofJson _ (by simp) fun fields hfields => ?_
  rw [hcolumns fields "columns" [] (hfields _ (by decide)),
    hintervalType fields "intervalType" (hfields _ (by decide)),
    hinterval fields "interval" (hfields _ (by decide))]
  rfl

theorem ProfilerConfig.accepts : Accepts decoder toJson := by
  intro config
  obtain ⟨profileSample, hprofileSample⟩ :=
    Fields.exists_optional accepts_float config.profileSample
  obtain ⟨profileQuery, hprofileQuery⟩ :=
    Fields.exists_optional reads_text.accepts.optional config.profileQuery
  refine ⟨⟨profileSample, profileQuery⟩, ?_⟩
  refine record_ofJson _ (by simp) fun fields hfields => ?_
  rw [hprofileSample fields "profileSample" (hfields _ (by decide)),
    hprofileQuery fields "profileQuery" (hfields _ (by decide))]
  rfl

theorem TableProfile.accepts : Accepts decoder toJson := by
  intro profile
  obtain ⟨timestamp, htimestamp⟩ :=
    Fields.exists_optional reads_int64.accepts.optional profile.timestamp
  obtain ⟨rowCount, hrowCount⟩ := Fields.exists_optional accepts_float profile.rowCount
  obtain ⟨columnCount, hcolumnCount⟩ :=
    Fields.exists_optional accepts_float profile.columnCount
  refine ⟨⟨timestamp, rowCount, columnCount⟩, ?_⟩
  refine record_ofJson _ (by simp) fun fields hfields => ?_
  rw [htimestamp fields "timestamp" (hfields _ (by decide)),
    hrowCount fields "rowCount" (hfields _ (by decide)),
    hcolumnCount fields "columnCount" (hfields _ (by decide))]
  rfl

theorem ColumnProfile.accepts : Accepts decoder toJson := by
  intro profile
  obtain ⟨valuesCount, hvaluesCount⟩ :=
    Fields.exists_optional accepts_float profile.valuesCount
  obtain ⟨nullCount, hnullCount⟩ := Fields.exists_optional accepts_float profile.nullCount
  obtain ⟨uniqueCount, huniqueCount⟩ :=
    Fields.exists_optional accepts_float profile.uniqueCount
  obtain ⟨min, hmin⟩ := Fields.exists_optional accepts_value.optional profile.min
  obtain ⟨max, hmax⟩ := Fields.exists_optional accepts_value.optional profile.max
  rw [Option.map_id_fun, id] at hmin hmax
  refine ⟨⟨valuesCount, nullCount, uniqueCount, min, max⟩, ?_⟩
  refine record_ofJson _ (by simp) fun fields hfields => ?_
  rw [hvaluesCount fields "valuesCount" (hfields _ (by decide)),
    hnullCount fields "nullCount" (hfields _ (by decide)),
    huniqueCount fields "uniqueCount" (hfields _ (by decide)),
    hmin fields "min" (hfields _ (by decide)), hmax fields "max" (hfields _ (by decide))]
  rfl

theorem Column.accepts : Accepts decoder toJson := by
  intro column
  obtain ⟨dataType, hdataType⟩ := Fields.exists_optional reads_text.accepts.optional column.dataType
  obtain ⟨profile, hprofile⟩ := Fields.exists_optional ColumnProfile.accepts.optional column.profile
  refine ⟨⟨column.name, dataType, profile⟩, ?_⟩
  refine record_ofJson _ (by simp) fun fields hfields => ?_
  have hname : fields.required "name" Decoder.text = .done column.name :=
    Fields.required_eq reads_text (hfields _ (by decide))
  rw [hname, hdataType fields "dataType" (hfields _ (by decide)),
    hprofile fields "profile" (hfields _ (by decide))]
  rfl

/-! ## Entities -/

theorem ServiceConnection.accepts : Accepts decoder toJson := by
  intro connection
  obtain ⟨config, hconfig⟩ := Fields.exists_required accepts_value connection.config
  refine ⟨⟨config⟩, ?_⟩
  refine record_ofJson [("config", some connection.config)] (by simp) fun fields hfields => ?_
  rw [hconfig fields "config" (hfields _ (by decide))]
  rfl

theorem TestDefinition.reads : Reads decoder toJson := by
  intro definition
  refine record_ofJson _ (by simp) fun fields hfields => ?_
  have hid : fields.required "id" Uuid.decoder = .done definition.id :=
    Fields.required_eq Uuid.reads (hfields _ (by decide))
  have hname : fields.required "name" Decoder.text = .done definition.name :=
    Fields.required_eq reads_text (hfields _ (by decide))
  have hfqn := Fields.optionalText_eq (hfields "fullyQualifiedName" (by decide))
  have hdescription := Fields.optionalText_eq (hfields "description" (by decide))
  have htype := Fields.optionalText_eq (hfields "entityType" (by decide))
  rw [hid, hname, hfqn, hdescription, htype]
  rfl

/-- A table is read back but for what is untyped in it. -/
theorem Table.exists_read (table : Table) :
    ∃ columns profilerConfig partition profile,
      decoder (Datum.ofJson table.toJson) =
        .ok ⟨table.id, table.name, table.fullyQualifiedName, columns, profilerConfig, partition,
          profile⟩ := by
  obtain ⟨columns, hcolumns⟩ := Fields.exists_defaulted (accepts_list Column.accepts) table.columns
  obtain ⟨profilerConfig, hprofilerConfig⟩ :=
    Fields.exists_optional ProfilerConfig.accepts.optional table.profilerConfig
  obtain ⟨partition, hpartition⟩ :=
    Fields.exists_optional TablePartition.accepts.optional table.partition
  obtain ⟨profile, hprofile⟩ := Fields.exists_optional TableProfile.accepts.optional table.profile
  refine ⟨columns, profilerConfig, partition, profile, ?_⟩
  refine record_ofJson _ (by simp) fun fields hfields => ?_
  have hid : fields.required "id" Uuid.decoder = .done table.id :=
    Fields.required_eq Uuid.reads (hfields _ (by decide))
  have hname : fields.required "name" Decoder.text = .done table.name :=
    Fields.required_eq reads_text (hfields _ (by decide))
  have hfqn := Fields.optionalText_eq (hfields "fullyQualifiedName" (by decide))
  rw [hid, hname, hfqn, hcolumns fields "columns" [] (hfields _ (by decide)),
    hprofilerConfig fields "tableProfilerConfig" (hfields _ (by decide)),
    hpartition fields "tablePartition" (hfields _ (by decide)),
    hprofile fields "profile" (hfields _ (by decide))]
  rfl

/-- A service is read back but for what is untyped in it. -/
theorem DatabaseService.exists_read (service : DatabaseService) :
    ∃ connection,
      decoder (Datum.ofJson service.toJson) =
        .ok ⟨service.id, service.name, service.fullyQualifiedName, service.serviceType,
          connection⟩ := by
  obtain ⟨connection, hconnection⟩ :=
    Fields.exists_optional ServiceConnection.accepts.optional service.connection
  refine ⟨connection, ?_⟩
  refine record_ofJson _ (by simp) fun fields hfields => ?_
  have hid : fields.required "id" Uuid.decoder = .done service.id :=
    Fields.required_eq Uuid.reads (hfields _ (by decide))
  have hname : fields.required "name" Decoder.text = .done service.name :=
    Fields.required_eq reads_text (hfields _ (by decide))
  have hfqn := Fields.optionalText_eq (hfields "fullyQualifiedName" (by decide))
  have htype := Fields.optionalText_eq (hfields "serviceType" (by decide))
  rw [hid, hname, hfqn, htype, hconnection fields "connection" (hfields _ (by decide))]
  rfl

end DataQuality

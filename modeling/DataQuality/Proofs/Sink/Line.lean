import DataQuality.Proofs.Catalog.Documents
import DataQuality.Proofs.Json.Text
import DataQuality.Sink.File

/-!
# The lines of a sink

A sink that writes to a file writes each record as one line of JSON. Whatever characters the texts
of records hold, a sequence of such lines is split into them again, and each is decoded to the
record that it was written for.
-/

namespace DataQuality

/-! ## Records in their text -/

open Decoder

theorem TestResultValue.readsInOrder : ReadsInOrder decoder toJson := by
  intro value
  refine record_ofSorted [("name", some (.string value.name)),
    ("value", some (.string value.value))] (by simp) fun fields hfields => ?_
  have hname : fields.required "name" Decoder.text = .done value.name :=
    Fields.required_eq reads_text (hfields _ (by decide))
  have hvalue : fields.required "value" Decoder.text = .done value.value :=
    Fields.required_eq reads_text (hfields _ (by decide))
  rw [hname, hvalue]
  rfl

theorem TestCaseStatus.reads : Reads decoder fun status => .string status.name := by
  intro status
  cases status <;> rfl

theorem TestCaseResult.readsInOrder : ReadsInOrder decoder toJson := by
  intro result
  refine record_ofSorted _ (by simp) fun fields hfields => ?_
  have htimestamp : fields.required "timestamp" Decoder.int64 = .done result.timestamp :=
    Fields.required_eq reads_int64 (hfields _ (by decide))
  have hstatus : fields.required "testCaseStatus" TestCaseStatus.decoder = .done result.status :=
    Fields.required_eq TestCaseStatus.reads (hfields _ (by decide))
  have hresult := Fields.optionalText_of_view (fun _ => rfl) (hfields "result" (by decide))
  have hvalues : fields.defaulted "testResultValue" []
      (Decoder.list TestResultValue.decoder) = .done result.values :=
    Fields.defaulted_of_decode (readsInOrder_list TestResultValue.readsInOrder result.values)
      (hfields _ (by decide))
  rw [htimestamp, hstatus, hresult, hvalues]
  rfl

theorem ResultRecord.readsInOrder : ReadsInOrder decoder toJson := by
  intro record
  refine record_ofSorted [("testCaseFqn", some (.string record.testCase)),
    ("tableFqn", some (.string record.table)),
    ("testCaseResult", some record.result.toJson)] (by simp) fun fields hfields => ?_
  have htestCase : fields.required "testCaseFqn" Decoder.text = .done record.testCase :=
    Fields.required_eq reads_text (hfields _ (by decide))
  have htable : fields.required "tableFqn" Decoder.text = .done record.table :=
    Fields.required_eq reads_text (hfields _ (by decide))
  have hresult : fields.required "testCaseResult" TestCaseResult.decoder = .done record.result :=
    Fields.required_of_decode (TestCaseResult.readsInOrder record.result) (hfields _ (by decide))
  rw [htestCase, htable, hresult]
  rfl

namespace Json

/-- A record is readable if the members that are there are. -/
theorem readable_record {depth : Nat} {members : List (String × Option Json)}
    (h : ∀ member ∈ members, ∀ value ∈ member.2, Readable depth value) :
    Readable (depth + 1) (Json.record members) := by
  refine .object fun member hmember => ?_
  obtain ⟨given, hgiven, hpresent⟩ := List.mem_filterMap.mp hmember
  obtain ⟨value, hvalue, rfl⟩ := Option.map_eq_some_iff.mp hpresent
  exact h given hgiven value hvalue

theorem fitsWord_toInt (n : Int64) : FitsWord n.toInt := by
  refine ⟨Int64.minValue_le_toInt n, ?_⟩
  exact Int.lt_of_le_of_lt (Int64.toInt_le n) (by decide)

end Json

open Json

theorem TestResultValue.readable (depth : Nat) (value : TestResultValue) :
    Readable (depth + 1) value.toJson := by
  apply Readable.object
  simp only [List.mem_cons, List.not_mem_nil, or_false]
  rintro member (rfl | rfl)
  · exact .string _
  · exact .string _

theorem TestCaseResult.readable (depth : Nat) (result : TestCaseResult) :
    Readable (depth + 3) result.toJson := by
  apply readable_record
  simp only [List.mem_cons, List.not_mem_nil, or_false]
  rintro member (rfl | rfl | rfl | rfl) value hvalue
  · cases hvalue
    exact .int (fitsWord_toInt _)
  · cases hvalue
    exact .string _
  · obtain ⟨text, -, rfl⟩ := Option.map_eq_some_iff.mp hvalue
    exact .string text
  · cases hvalue
    apply Readable.array
    intro item hitem
    obtain ⟨each, -, rfl⟩ := List.mem_map.mp hitem
    exact each.readable depth

theorem ResultRecord.readable (depth : Nat) (record : ResultRecord) :
    Readable (depth + 4) record.toJson := by
  apply Readable.object
  simp only [List.mem_cons, List.not_mem_nil, or_false]
  rintro member (rfl | rfl | rfl)
  · exact .string _
  · exact .string _
  · exact record.result.readable depth

/-! ## Lines -/

namespace Text

/-- The lines of a text, without the line feeds that end them and the carriage returns before
these; the last line need not be ended. -/
def lines : List Char → List (List Char)
  | [] => []
  | '\n' :: rest => [] :: lines rest
  | '\r' :: '\n' :: rest => [] :: lines rest
  | c :: rest =>
      match lines rest with
      | [] => [[c]]
      | line :: others => (c :: line) :: others

/-- What stands before the first line feed is the first line. -/
theorem lines_append {line : List Char} (hfeed : '\n' ∉ line)
    (hreturn : line.getLast? ≠ some '\r') (rest : List Char) :
    lines (line ++ '\n' :: rest) = line :: lines rest := by
  induction line with
  | nil => rfl
  | cons c others ih =>
      have hc : c ≠ '\n' := fun heq => hfeed (heq ▸ List.mem_cons_self)
      have hothers : '\n' ∉ others := fun hmem => hfeed (List.mem_cons_of_mem c hmem)
      have hlast : others.getLast? ≠ some '\r' := by
        intro heq
        apply hreturn
        rw [List.getLast?_cons, heq]
        rfl
      rw [List.cons_append, lines, ih hothers hlast]
      · exact hc
      · -- a carriage return counts as part of an ending only right before the line feed
        rintro after rfl heq
        cases others with
        | nil => exact hreturn rfl
        | cons d others =>
            rw [List.cons_append] at heq
            exact hothers ((List.cons.inj heq).1 ▸ List.mem_cons_self)

end Text

namespace FileSink

/-- The record that a line stands for. -/
def decodeLine (line : List Char) : Except DecodeError ResultRecord :=
  ResultRecord.decoder.run (Json.readDocument (String.ofList line))

theorem toList_line (record : ResultRecord) :
    (line record).toList = record.toJson.write ++ ['\n'] := String.toList_ofList

theorem decodeLine_write (record : ResultRecord) : decodeLine record.toJson.write = .ok record := by
  have hdocument : Json.readDocument (String.ofList record.toJson.write) =
      ⟨Datum.ofSorted record.toJson, true⟩ := readDocument_render (record.readable 123)
  rw [decodeLine, hdocument, Decoder.run, ResultRecord.readsInOrder record]
  rfl

theorem getLast?_write (record : ResultRecord) : record.toJson.write.getLast? = some '\x7d' := by
  rw [ResultRecord.toJson, Json.write, ← List.cons_append]
  exact List.getLast?_concat

/-- The lines of records are split again, -/
theorem lines_of_records (records : List ResultRecord) :
    Text.lines (records.flatMap fun record => (line record).toList) =
      records.map fun record => record.toJson.write := by
  induction records with
  | nil => rfl
  | cons record rest ih =>
      have hreturn : record.toJson.write.getLast? ≠ some '\r' := by
        rw [getLast?_write]
        decide
      rw [List.flatMap_cons, toList_line, List.append_assoc, List.singleton_append,
        Text.lines_append (record.readable 0).lineFeed_notMem hreturn, ih, List.map_cons]

/-- and each of them is decoded to its record. -/
theorem decodeLine_of_records (records : List ResultRecord) :
    (records.map fun record => record.toJson.write).map decodeLine = records.map .ok := by
  rw [List.map_map]
  apply List.map_congr_left
  intro record _
  rw [Function.comp_apply, decodeLine_write]

end FileSink

end DataQuality

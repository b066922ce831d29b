import DataQuality.Proofs.Effect
import DataQuality.Proofs.Files
import DataQuality.Proofs.Sink.Line

/-!
# The log of a sink

A sink that writes to a file is a log that can be read again. Until its first close it takes every
record, and after it none; from then on its file holds one line for each record that it took, in
order, and does not change any more. At every moment its books tell what became of each write.
-/

namespace DataQuality

variable {σ : Type}

/-- A call of a sink. -/
inductive SinkCall where
  | write (record : ResultRecord)
  | close

namespace SinkCall

/-- The records that are written before the first close. -/
def logged : List SinkCall → List ResultRecord
  | [] => []
  | .write record :: rest => record :: logged rest
  | .close :: _ => []

/-- What calls are answered by a sink that takes records until it is closed. -/
def answers (isOpen : Bool) : List SinkCall → List (Except SinkError Unit)
  | [] => []
  | .write _ :: rest => (if isOpen then .ok () else .error .closed) :: answers isOpen rest
  | .close :: rest => .ok () :: answers false rest

/-- The key of a write that succeeded. -/
def takenKey? : SinkCall × Except SinkError Unit → Option String
  | (.write record, .ok ()) => some record.testCase
  | _ => none

/-- The key of a write that failed. -/
def refusedKey? : SinkCall × Except SinkError Unit → Option String
  | (.write record, .error _) => some record.testCase
  | _ => none

end SinkCall

namespace Sink

def perform (sink : Sink σ) : SinkCall → Effect σ (Except SinkError Unit)
  | .write record => (sink.write record).run
  | .close => sink.close.run

/-- Makes calls one after the other, whatever they are answered. -/
def performAll (sink : Sink σ) : List SinkCall → Effect σ (List (Except SinkError Unit))
  | [] => pure []
  | call :: rest => do
      let answer ← sink.perform call
      let answers ← sink.performAll rest
      return answer :: answers

end Sink

namespace FileSink

/-! ## The sink as a machine -/

/-- What a call does to the files and the sink. -/
def perform (desk : Desk) : SinkCall → Except SinkError Unit × Desk
  | .write record => write desk record
  | .close => (.ok (), close desk)

def performAll (desk : Desk) : List SinkCall → List (Except SinkError Unit) × Desk
  | [] => ([], desk)
  | call :: rest =>
      ((perform desk call).1 :: (performAll (perform desk call).2 rest).1,
        (performAll (perform desk call).2 rest).2)

theorem performAll_append (desk : Desk) (calls others : List SinkCall) :
    (performAll desk (calls ++ others)).2 = (performAll (performAll desk calls).2 others).2 := by
  induction calls generalizing desk with
  | nil => rfl
  | cons call rest ih => exact ih (perform desk call).2

variable (part : Part σ Desk)

/-- The sink of a part of the world does what the machine does, beside logging. -/
theorem run_perform (call : SinkCall) (world : World σ) :
    (((Sink.file part).perform call).run world).1 = (perform (part.get world.state) call).1 ∧
      part.get (((Sink.file part).perform call).run world).2.state =
        (perform (part.get world.state) call).2 := by
  cases call with
  | close => exact ⟨rfl, part.get_set _ _⟩
  | write record =>
      have hrun : ((Sink.file part).perform (.write record)).run world =
          Effect.attempt (Sink.writeLine part record) world := rfl
      rw [hrun, Sink.writeLine, Effect.attempt_bind, Effect.attempt_lift, part.run_act, perform]
      cases write (part.get world.state) record with
      | mk answer desk =>
          cases answer with
          | ok _ => exact ⟨rfl, part.get_set _ _⟩
          | error e =>
              -- the warning goes to the journal, beside the state
              exact ⟨rfl, part.get_set _ _⟩

theorem run_performAll (calls : List SinkCall) (world : World σ) :
    (((Sink.file part).performAll calls).run world).1 =
        (performAll (part.get world.state) calls).1 ∧
      part.get (((Sink.file part).performAll calls).run world).2.state =
        (performAll (part.get world.state) calls).2 := by
  induction calls generalizing world with
  | nil => exact ⟨rfl, rfl⟩
  | cons call rest ih =>
      obtain ⟨hanswer, hdesk⟩ := run_perform part call world
      obtain ⟨hanswers, hfinal⟩ := ih (((Sink.file part).perform call).run world).2
      rw [hdesk] at hanswers hfinal
      simp only [Sink.performAll, performAll, Effect.run_bind, Effect.run_pure]
      rw [hanswer, hanswers]
      exact ⟨rfl, hfinal⟩

/-! ## Single calls -/

variable {desk : Desk}

theorem write_of_closed (h : desk.sink.file = none) (record : ResultRecord) :
    write desk record =
      (.error .closed,
        { desk with
          sink := { desk.sink with status := desk.sink.status.failure record.testCase } }) := by
  rw [write, h]

theorem write_of_open {file : OpenFile} (h : desk.sink.file = some file)
    (record : ResultRecord) :
    write desk record =
      (.ok (),
        ⟨(append desk.files file (line record).toUTF8).1,
          ⟨some (append desk.files file (line record).toUTF8).2,
            desk.sink.status.processed record.testCase⟩⟩) := by
  rw [write, h]

theorem close_of_closed (h : desk.sink.file = none) : close desk = desk := by
  rw [close, h]

theorem close_of_open {file : OpenFile} (h : desk.sink.file = some file) :
    close desk =
      ⟨desk.files.append file.place file.pending, { desk.sink with file := none }⟩ := by
  rw [close, h]

/-- However the sink was before, it is closed after a close. -/
theorem file_close (desk : Desk) : (close desk).sink.file = none := by
  cases h : desk.sink.file with
  | none => rw [close_of_closed h, h]
  | some file => rw [close_of_open h]

/-! ## The books -/

/-- The key of a write is entered as processed or as failed, as it was answered. -/
theorem status_perform (desk : Desk) (call : SinkCall) :
    (perform desk call).2.sink.status =
      { desk.sink.status with
        records := desk.sink.status.records ++
          (SinkCall.takenKey? (call, (perform desk call).1)).toList
        failures := desk.sink.status.failures ++
          (SinkCall.refusedKey? (call, (perform desk call).1)).toList } := by
  cases call with
  | close =>
      cases h : desk.sink.file with
      | none => simp [perform, close_of_closed h, SinkCall.takenKey?, SinkCall.refusedKey?]
      | some file => simp [perform, close_of_open h, SinkCall.takenKey?, SinkCall.refusedKey?]
  | write record =>
      cases h : desk.sink.file with
      | none =>
          simp [perform, write_of_closed h, SinkCall.takenKey?, SinkCall.refusedKey?,
            Status.failure]
      | some file =>
          simp [perform, write_of_open h, SinkCall.takenKey?, SinkCall.refusedKey?,
            Status.processed]

theorem status_performAll (desk : Desk) (calls : List SinkCall) :
    (performAll desk calls).2.sink.status =
      { desk.sink.status with
        records := desk.sink.status.records ++
          (calls.zip (performAll desk calls).1).filterMap SinkCall.takenKey?
        failures := desk.sink.status.failures ++
          (calls.zip (performAll desk calls).1).filterMap SinkCall.refusedKey? } := by
  induction calls generalizing desk with
  | nil => simp [performAll]
  | cons call rest ih =>
      have hfilter : ∀ (f : SinkCall × Except SinkError Unit → Option String) entry entries,
          (entry :: entries).filterMap f = (f entry).toList ++ entries.filterMap f := by
        intro f entry entries
        rw [List.filterMap_cons]
        cases f entry with
        | none => rfl
        | some key => rfl
      simp only [performAll, List.zip_cons_cons, hfilter, ih, status_perform desk call,
        List.append_assoc]

/-! ## The file -/

/-- The text of the lines of records. -/
def text (records : List ResultRecord) : String :=
  String.ofList (records.flatMap fun record => (line record).toList)

theorem text_concat (records : List ResultRecord) (record : ResultRecord) :
    text (records ++ [record]) = text records ++ line record := by
  rw [text, List.flatMap_append, List.flatMap_singleton, String.ofList_append, String.ofList_toList,
    text]

theorem toUTF8_text_concat (records : List ResultRecord) (record : ResultRecord) :
    (text (records ++ [record])).toUTF8 = (text records).toUTF8 ++ (line record).toUTF8 := by
  rw [text_concat, String.toUTF8_eq_toByteArray, String.toByteArray_append]
  rfl

/-- The file that a sink has open holds the lines of records, together with what is pending. -/
def Collects (desk : Desk) (path : String) (records : List ResultRecord) : Prop :=
  ∃ file content, desk.sink.file = some file ∧ desk.files.FileAt path file.place content ∧
    content ++ file.pending = (text records).toUTF8

/-- The sink is closed, and its file holds the lines of records. -/
def Holds (desk : Desk) (path : String) (records : List ResultRecord) : Prop :=
  desk.sink.file = none ∧ ∃ place, desk.files.FileAt path place (text records).toUTF8

variable {files : Files} {path : String} {records : List ResultRecord}

/-- A sink that was just opened has collected nothing, -/
theorem collects_of_openFile (h : openFile files path = .ok desk) : Collects desk path [] := by
  unfold openFile at h
  split at h
  next => cases h
  next place created hcreate =>
    cases h
    exact ⟨_, _, rfl, Files.fileAt_of_create hcreate, rfl⟩

/-- and its books are empty. -/
theorem status_of_openFile (h : openFile files path = .ok desk) : desk.sink.status = {} := by
  unfold openFile at h
  split at h
  next => cases h
  next =>
    cases h
    rfl

/-- Wherever a line goes, to the pending ones or to the file, it comes after everything before. -/
theorem append_spec {file : OpenFile} {content : ByteArray}
    (h : files.FileAt path file.place content) (added : ByteArray) :
    ∃ written, (append files file added).1.FileAt path (append files file added).2.place written ∧
      written ++ (append files file added).2.pending = content ++ file.pending ++ added := by
  unfold append
  generalize hflushed : (if file.pending.size + added.size > capacity then
    (files.append file.place file.pending, ByteArray.empty)
    else (files, file.pending)) = flushed
  -- whatever is written first, nothing is pending any more when a large line follows
  obtain ⟨held, hheld, hsame, hnone⟩ : ∃ held, flushed.1.FileAt path file.place held ∧
      held ++ flushed.2 = content ++ file.pending ∧
      (capacity ≤ added.size → flushed.2 = ByteArray.empty) := by
    split_ifs at hflushed with hfull
    · cases hflushed
      exact ⟨_, h.append file.pending, ByteArray.append_empty, fun _ => rfl⟩
    · cases hflushed
      refine ⟨_, h, rfl, fun hlarge => ?_⟩
      have hsize : file.pending.size = 0 := by omega
      exact ByteArray.size_eq_zero_iff.mp hsize
  dsimp only
  split_ifs with hlarge
  · refine ⟨_, hheld.append added, ?_⟩
    rw [← hsame, hnone hlarge, ByteArray.append_empty, ByteArray.append_empty]
  · exact ⟨_, hheld, by rw [← hsame, ByteArray.append_assoc]⟩

theorem collects_write (h : Collects desk path records) (record : ResultRecord) :
    (write desk record).1 = .ok () ∧ Collects (write desk record).2 path (records ++ [record]) := by
  obtain ⟨file, content, hfile, hcontent, hrecords⟩ := h
  obtain ⟨written, hwritten, hpending⟩ := append_spec hcontent (line record).toUTF8
  rw [hrecords, ← toUTF8_text_concat] at hpending
  rw [write_of_open hfile]
  generalize append desk.files file (line record).toUTF8 = after at hwritten hpending ⊢
  exact ⟨rfl, after.2, written, rfl, hwritten, hpending⟩

/-- Nothing pending is lost in a close. -/
theorem holds_close (h : Collects desk path records) : Holds (close desk) path records := by
  obtain ⟨file, content, hfile, hcontent, hrecords⟩ := h
  refine ⟨file_close desk, file.place, ?_⟩
  rw [close_of_open hfile, ← hrecords]
  exact hcontent.append file.pending

/-- A closed sink refuses every write, and its files stay. -/
theorem performAll_of_closed (h : desk.sink.file = none) (calls : List SinkCall) :
    (performAll desk calls).1 = SinkCall.answers false calls ∧
      (performAll desk calls).2.sink.file = none ∧
      (performAll desk calls).2.files = desk.files := by
  induction calls generalizing desk with
  | nil => exact ⟨rfl, h, rfl⟩
  | cons call rest ih =>
      have hcall : (perform desk call).2.sink.file = none ∧
          (perform desk call).2.files = desk.files := by
        cases call with
        | write record =>
            rw [perform, write_of_closed h]
            exact ⟨h, rfl⟩
        | close =>
            rw [perform, close_of_closed h]
            exact ⟨h, rfl⟩
      obtain ⟨hanswers, hfile, hfiles⟩ := ih hcall.1
      refine ⟨?_, hfile, hfiles.trans hcall.2⟩
      rw [performAll, hanswers]
      cases call with
      | write record =>
          rw [perform, write_of_closed h]
          rfl
      | close => rfl

/-- An open sink takes every record until it is closed, and then holds what it took. -/
theorem performAll_of_open (h : Collects desk path records) (calls : List SinkCall) :
    (performAll desk calls).1 = SinkCall.answers true calls ∧
      (.close ∈ calls →
        Holds (performAll desk calls).2 path (records ++ SinkCall.logged calls)) := by
  induction calls generalizing desk records with
  | nil => exact ⟨rfl, fun hclose => by cases hclose⟩
  | cons call rest ih =>
      cases call with
      | write record =>
          obtain ⟨htaken, hcollects⟩ := collects_write h record
          obtain ⟨hanswers, hholds⟩ := ih hcollects
          refine ⟨?_, fun hclose => ?_⟩
          · rw [performAll, perform, htaken, hanswers]
            rfl
          · have hrest : SinkCall.close ∈ rest := by simpa using hclose
            have hlogged := hholds hrest
            rw [List.append_assoc] at hlogged
            exact hlogged
      | close =>
          -- from here on the sink is closed, so the hypothesis of the induction is of no use
          obtain ⟨hfile, place, hplace⟩ := holds_close h
          obtain ⟨hanswers, hclosed, hfiles⟩ := performAll_of_closed hfile rest
          refine ⟨?_, fun _ => ⟨hclosed, place, ?_⟩⟩
          · rw [performAll, perform, hanswers]
            rfl
          · rw [SinkCall.logged, List.append_nil]
            exact hfiles ▸ hplace

/-- What follows a close leaves the files as they are. -/
theorem files_after_close (desk : Desk) (before rest : List SinkCall) :
    (performAll desk (before ++ .close :: rest)).2.files =
      (performAll desk (before ++ [.close])).2.files := by
  rw [performAll_append, performAll_append]
  exact (performAll_of_closed (file_close _) rest).2.2

end FileSink

namespace Sink

open FileSink

variable {files : Files} {path : String} {opened : Desk}

/-- Whatever is called on a sink that was opened on a file: writes are taken until the first close
and refused after it, closes succeed; each write has its key in one of the books, in order; once
the sink was closed, its file reads as one line of JSON for each record that was taken, and is
decoded line by line to these records; and nothing that is called after a close changes the
files. -/
theorem file_logs (hopened : openFile files path = .ok opened) (part : Part σ Desk)
    (world : World σ) (hworld : part.get world.state = opened) (calls : List SinkCall) :
    ∃ answers final, ((file part).performAll calls).run world = (answers, final) ∧
      answers = SinkCall.answers true calls ∧
      (file part).status final.state =
        { records := (calls.zip answers).filterMap SinkCall.takenKey?
          failures := (calls.zip answers).filterMap SinkCall.refusedKey? } ∧
      (.close ∈ calls → ∃ text, (part.get final.state).files.readText path = .ok text ∧
        text.toList =
          (SinkCall.logged calls).flatMap (fun record => record.toJson.write ++ ['\n']) ∧
        Text.lines text.toList = (SinkCall.logged calls).map (fun record => record.toJson.write) ∧
        (Text.lines text.toList).map decodeLine = (SinkCall.logged calls).map .ok) ∧
      ∀ before rest, calls = before ++ .close :: rest →
        (part.get final.state).files =
          (part.get (((file part).performAll (before ++ [.close])).run world).2.state).files := by
  obtain ⟨hanswers, hfinal⟩ := run_performAll part calls world
  obtain ⟨htaken, hholds⟩ := performAll_of_open (collects_of_openFile hopened) calls
  rw [hworld] at hanswers hfinal
  generalize hrun : ((file part).performAll calls).run world = run at hanswers hfinal ⊢
  refine ⟨run.1, run.2, rfl, hanswers.trans htaken, ?_, fun hclose => ?_, ?_⟩
  · have hstatus := status_performAll opened calls
    rw [status_of_openFile hopened] at hstatus
    have hbooks : (file part).status run.2.state = (part.get run.2.state).sink.status := rfl
    rw [hbooks, hanswers, hfinal, hstatus]
    rfl
  · obtain ⟨-, place, hplace⟩ := hholds hclose
    have htext : (text (SinkCall.logged calls)).toList =
        (SinkCall.logged calls).flatMap fun record => (line record).toList := String.toList_ofList
    have hlines : Text.lines (text (SinkCall.logged calls)).toList =
        (SinkCall.logged calls).map fun record => record.toJson.write := by
      rw [htext, lines_of_records]
    rw [hfinal]
    refine ⟨text (SinkCall.logged calls), hplace.readText, ?_, hlines, ?_⟩
    · simp only [htext, toList_line]
    · rw [hlines, decodeLine_of_records]
  · rintro before rest rfl
    rw [hfinal, (run_performAll part _ world).2, hworld]
    exact files_after_close opened before rest

/-- A file can be opened in an empty directory. -/
theorem exists_openFile : ∃ opened, openFile {} "log" = .ok opened := by
  have hsplit : "log".splitOn "/" = "log".splitOnAux "/" 0 0 0 [] := rfl
  have hcomponents : Files.components "log" = ["log"] := by
    rw [Files.components, hsplit]
    -- splitting recurs on positions: once for each character, and once at the end
    iterate 4 rw [String.splitOnAux]
    decide
  have hresolve : Files.resolve {} "log" = .ok ["log"] := by
    rw [Files.resolve, hcomponents]
    decide
  have hname : Files.withoutSlashes "log" = "log" := by decide
  rw [openFile, Files.create, hname, if_neg (by decide), hresolve]
  exact ⟨_, rfl⟩

/-- A record with quotes and a line feed in its message is found again in a log that was closed
after it; the one that came too late is not. -/
theorem file_logs_before_close :
    ∃ opened, openFile {} "log" = .ok opened ∧ ∃ answers final,
      ((file Part.whole).performAll
          [.write ⟨"orders.rows", "orders", ⟨0, .failed, some "a \"b\"\nc", []⟩⟩, .close,
            .write ⟨"orders.late", "orders", ⟨1, .success, none, []⟩⟩, .close]).run
        ⟨opened, []⟩ = (answers, final) ∧
      answers = [.ok (), .ok (), .error .closed, .ok ()] ∧
      final.state.sink.status = { records := ["orders.rows"], failures := ["orders.late"] } ∧
      ∃ text, final.state.files.readText "log" = .ok text ∧
        (Text.lines text.toList).map decodeLine =
          [.ok ⟨"orders.rows", "orders", ⟨0, .failed, some "a \"b\"\nc", []⟩⟩] := by
  obtain ⟨opened, hopened⟩ := exists_openFile
  obtain ⟨answers, final, hrun, hanswers, hstatus, hread, -⟩ :=
    file_logs hopened Part.whole ⟨opened, []⟩ rfl
      [.write ⟨"orders.rows", "orders", ⟨0, .failed, some "a \"b\"\nc", []⟩⟩, .close,
        .write ⟨"orders.late", "orders", ⟨1, .success, none, []⟩⟩, .close]
  obtain ⟨text, htext, -, -, hdecoded⟩ := hread (by simp)
  subst hanswers
  exact ⟨opened, hopened, _, final, hrun, rfl, hstatus, text, htext, hdecoded⟩

end Sink

end DataQuality

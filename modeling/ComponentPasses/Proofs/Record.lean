import ComponentPasses.Record

/-!
# What a record keeps

Noting remarks and adding artifacts only ever append.  The **findings** among remarks are what
noting them adds to the diagnostics of a record (`diagnostics_noteAll`), the **log records** among
them what it adds to the log (`journal_noteAll`), and the events they leave depend on nothing in the
trace but the phases that are open (`trace_noteAll`).  A run of remarks and artifacts is one
extension of a record (`Record.extend`), and extensions compose.
-/

namespace ComponentPasses

/-- The finding that a remark reports, if it reports one. -/
def Remark.diagnostic? : Remark → Option Diagnostic
  | .reported diagnostic => some diagnostic
  | _ => none

/-- The findings among remarks, in order. -/
def findings (remarks : List Remark) : List Diagnostic :=
  remarks.filterMap Remark.diagnostic?

@[simp] theorem findings_nil : findings [] = [] := rfl

theorem findings_append (front back : List Remark) :
    findings (front ++ back) = findings front ++ findings back :=
  List.filterMap_append

theorem findings_map_reported (diagnostics : List Diagnostic) :
    findings (diagnostics.map .reported) = diagnostics := by
  induction diagnostics with
  | nil => rfl
  | cons diagnostic rest ih => exact congrArg (diagnostic :: ·) ih

theorem findings_map_logged (entries : List Console.LogRecord) :
    findings (entries.map .logged) = [] := by
  induction entries with
  | nil => rfl
  | cons entry rest ih => exact ih

/-- What a remark tells the user, if it is about that. -/
def Remark.logRecord? : Remark → Option Console.LogRecord
  | .logged entry => some entry
  | _ => none

/-- The log records among remarks, in order. -/
def logRecords (remarks : List Remark) : List Console.LogRecord :=
  remarks.filterMap Remark.logRecord?

theorem logRecords_append (front back : List Remark) :
    logRecords (front ++ back) = logRecords front ++ logRecords back :=
  List.filterMap_append

theorem logRecords_map_logged (entries : List Console.LogRecord) :
    logRecords (entries.map .logged) = entries := by
  induction entries with
  | nil => rfl
  | cons entry rest ih => exact congrArg (entry :: ·) ih

theorem logRecords_map_reported (diagnostics : List Diagnostic) :
    logRecords (diagnostics.map .reported) = [] := by
  induction diagnostics with
  | nil => rfl
  | cons diagnostic rest ih => exact ih

/-- The events that remarks leave in a trace in which the phases are open, innermost first. -/
def eventsOf (phases : List Nat) (remarks : List Remark) : List Event :=
  (({ trace := { openPhases := phases } } : Record).noteAll remarks).trace.events

namespace Record

theorem noteAll_cons (record : Record) (remark : Remark) (rest : List Remark) :
    record.noteAll (remark :: rest) = (record.note remark).noteAll rest := rfl

theorem noteAll_append (record : Record) (front back : List Remark) :
    record.noteAll (front ++ back) = (record.noteAll front).noteAll back :=
  List.foldl_append

/-- Noting remarks adds their findings to the diagnostics, in order. -/
theorem diagnostics_noteAll (record : Record) (remarks : List Remark) :
    (record.noteAll remarks).diagnostics = record.diagnostics ++ findings remarks := by
  induction remarks generalizing record with
  | nil => simp [noteAll]
  | cons remark rest ih =>
    rw [noteAll_cons, ih]
    cases remark <;> simp [note, findings, List.filterMap_cons, Remark.diagnostic?]

/-- Noting remarks adds the log records among them to the log, in order. -/
theorem journal_noteAll (record : Record) (remarks : List Remark) :
    (record.noteAll remarks).journal = record.journal ++ logRecords remarks := by
  induction remarks generalizing record with
  | nil => simp [noteAll, logRecords]
  | cons remark rest ih =>
    rw [noteAll_cons, ih]
    cases remark <;> simp [note, logRecords, List.filterMap_cons, Remark.logRecord?]

/-- Noting remarks leaves the phases open as they are and adds events that depend on those alone. -/
theorem trace_noteAll (record : Record) (remarks : List Remark) :
    (record.noteAll remarks).trace =
      { record.trace with
        events := record.trace.events ++ eventsOf record.trace.openPhases remarks } := by
  induction remarks generalizing record with
  | nil => simp [noteAll, eventsOf]
  | cons remark rest ih =>
    have first : eventsOf record.trace.openPhases (remark :: rest) =
        eventsOf record.trace.openPhases [remark] ++ eventsOf record.trace.openPhases rest := by
      rw [eventsOf, noteAll_cons, ih]
      cases remark <;> rfl
    rw [noteAll_cons, ih, first]
    cases remark <;>
      simp [eventsOf, noteAll, note, Trace.inspection, Trace.diagnostic, Trace.skipped,
        Trace.record]

/-- What a record keeps of remarks and artifacts that come after what it holds. -/
def extend (record : Record) (remarks : List Remark) (artifacts : List Artifact) : Record :=
  { record.noteAll remarks with artifacts := ⟨record.artifacts.artifacts ++ artifacts⟩ }

/-- What noting remarks does to the rest of a record does not depend on its artifacts. -/
theorem noteAll_with_artifacts (record : Record) (store : ArtifactStore) (remarks : List Remark) :
    { record with artifacts := store }.noteAll remarks =
      { record.noteAll remarks with artifacts := store } := by
  induction remarks generalizing record with
  | nil => rfl
  | cons remark rest ih =>
    have step : { record with artifacts := store }.note remark =
        { record.note remark with artifacts := store } := by cases remark <;> rfl
    rw [noteAll_cons, step, ih, noteAll_cons]

theorem noteAll_eq_extend (record : Record) (remarks : List Remark) :
    record.noteAll remarks = record.extend remarks [] := by
  rw [extend, List.append_nil]
  exact noteAll_with_artifacts record record.artifacts remarks

theorem extend_nil (record : Record) : record.extend [] [] = record := by
  simp [extend, noteAll]

theorem extend_extend (record : Record) (first second : List Remark)
    (artifacts artifacts' : List Artifact) :
    (record.extend first artifacts).extend second artifacts' =
      record.extend (first ++ second) (artifacts ++ artifacts') := by
  simp only [extend, noteAll_with_artifacts, noteAll_append, List.append_assoc]

theorem diagnostics_extend (record : Record) (remarks : List Remark) (artifacts : List Artifact) :
    (record.extend remarks artifacts).diagnostics = record.diagnostics ++ findings remarks :=
  diagnostics_noteAll record remarks

theorem journal_extend (record : Record) (remarks : List Remark) (artifacts : List Artifact) :
    (record.extend remarks artifacts).journal = record.journal ++ logRecords remarks :=
  journal_noteAll record remarks

theorem trace_extend (record : Record) (remarks : List Remark) (artifacts : List Artifact) :
    (record.extend remarks artifacts).trace =
      { record.trace with
        events := record.trace.events ++ eventsOf record.trace.openPhases remarks } :=
  trace_noteAll record remarks

theorem names_extend (record : Record) (remarks : List Remark) (artifacts : List Artifact) :
    (record.extend remarks artifacts).artifacts.names =
      record.artifacts.names ++ artifacts.map (·.name) := by
  simp [extend, ArtifactStore.names]

/-- An artifact with a new name is added at the end. -/
theorem add_of_fresh {record : Record} {artifact : Artifact}
    (fresh : artifact.name ∉ record.artifacts.names) :
    record.add artifact = .ok (record.extend [] [artifact]) := by
  simp [add, ArtifactStore.add, fresh, Except.map, extend, noteAll]

end Record

theorem eventsOf_append (phases : List Nat) (front back : List Remark) :
    eventsOf phases (front ++ back) = eventsOf phases front ++ eventsOf phases back := by
  rw [eventsOf, Record.noteAll_append, Record.trace_noteAll, Record.trace_noteAll]
  simp [eventsOf]

end ComponentPasses

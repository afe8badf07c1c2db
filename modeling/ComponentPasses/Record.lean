import ComponentPasses.Artifact
import ComponentPasses.Console.Journal
import ComponentPasses.Diagnostic
import ComponentPasses.Trace

/-!
# Run records

A pass says what it does in **remarks**: it looked into something, found something, dropped
something, or has something to tell the user.  A run record is what remains of a run: its trace,
diagnostics, artifacts and log.  Noting a remark puts it where it belongs: every finding goes into
the diagnostics and into the trace.
-/

namespace ComponentPasses

open Console (LogRecord)

/-- What a pass says about its work. -/
inductive Remark
  | inspected (subject outcome detail : String)
  | reported (diagnostic : Diagnostic)
  | skipped (name reason : String)
  | logged (record : LogRecord)
deriving DecidableEq, Repr

/-- What remains of a run. -/
structure Record where
  trace : Trace := {}
  diagnostics : List Diagnostic := []
  artifacts : ArtifactStore := {}
  journal : List LogRecord := []
deriving Inhabited

namespace Record

/-- Puts a remark where it belongs. -/
def note (record : Record) : Remark → Record
  | .inspected subject outcome detail =>
    { record with trace := record.trace.inspection subject outcome detail }
  | .reported diagnostic =>
    { record with
      diagnostics := record.diagnostics ++ [diagnostic]
      trace := record.trace.diagnostic diagnostic.id diagnostic.message diagnostic.location.text }
  | .skipped name reason => { record with trace := record.trace.skipped name reason }
  | .logged entry => { record with journal := record.journal ++ [entry] }

/-- Puts remarks where they belong, in order. -/
def noteAll (record : Record) (remarks : List Remark) : Record :=
  remarks.foldl note record

/-- Adds an artifact. -/
def add (record : Record) (artifact : Artifact) : Except DuplicateArtifact Record :=
  (record.artifacts.add artifact).map fun store => { record with artifacts := store }

/-- Whether an error has been found. -/
def hasErrors (record : Record) : Bool :=
  record.diagnostics.any (·.isError)

end Record

end ComponentPasses

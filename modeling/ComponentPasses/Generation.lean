import ComponentPasses.Dispatch.Generation
import ComponentPasses.LoopKeys.Analysis

/-!
# A whole run

A run selects the candidates, makes the dispatchers and analyses the loops, as far as the settings
ask for it.  Each of the three is a phase of the trace.  A run with dispatch generation always
starts its artifacts with the declarations of the opt-in and opt-out attributes.

The **result** holds the artifacts and findings in order and the trace; a run succeeds when it finds
no error.
-/

namespace ComponentPasses

open Snapshot (Compilation)

/-- What a run yields. -/
structure Generation where
  artifacts : List Artifact
  diagnostics : List Diagnostic
  events : List Event
  success : Bool
deriving Inhabited

namespace Generation

/-- The findings that are errors. -/
def errors (generation : Generation) : List Diagnostic :=
  generation.diagnostics.filter fun diagnostic => diagnostic.severity = .error

/-- The findings that are warnings. -/
def warnings (generation : Generation) : List Diagnostic :=
  generation.diagnostics.filter fun diagnostic => diagnostic.severity = .warning

/-- The artifact of a name. -/
def artifact? (generation : Generation) (name : String) : Option Artifact :=
  generation.artifacts.find? (·.name = name)

/-- What a run record yields. -/
def ofRecord (record : Record) : Generation :=
  ⟨record.artifacts.artifacts, record.diagnostics, record.trace.events, !record.hasErrors⟩

end Generation

/-! ## 1. The phases -/

/-- Does something as a phase of the trace. -/
def Record.startPhase (record : Record) (name detail : String) : Record :=
  { record with trace := record.trace.startPhase name detail }

/-- Ends the innermost phase of the trace. -/
def Record.endPhase (record : Record) : Record :=
  { record with trace := record.trace.endPhase }

/-- The phase that selects the candidates: each is noted in the trace. -/
def collectionPhase (candidates : Candidates) (record : Record) : Record :=
  let started := record.startPhase "Collection" "Selecting candidate classes and render routines"
  let trace := candidates.classes.foldl
    (fun trace type => trace.candidate "class" type.qualifiedName) started.trace
  let trace := candidates.routines.foldl
    (fun trace routine => trace.candidate "render routine" routine.name) trace
  { started with trace := trace }.endPhase

/-- The phase that makes the dispatchers. -/
def dispatchPhase (settings : Settings) (compilation : Compilation) (candidates : Candidates)
    (record : Record) : Record × Except DuplicateArtifact Unit :=
  let started := record.startPhase "Dispatch Generation"
    (toString candidates.classes.length ++ " candidate classes")
  match started.add Dispatch.markerArtifact with
  | .error duplicate => (started, .error duplicate)
  | .ok marked =>
    let (generated, count) :=
      Dispatch.generateAll settings compilation marked candidates.classes
    (generated.endPhase, count.map fun _ => ())

/-- The phase that analyses the loops. -/
def keyPhase (settings : Settings) (compilation : Compilation) (candidates : Candidates)
    (record : Record) : Record :=
  let started := record.startPhase "Key Analysis"
    (toString candidates.routines.length ++ " render routines")
  let (_, remarks) := LoopKeys.analyze ⟨settings, compilation⟩ candidates.routines
  (started.noteAll remarks).endPhase

/-! ## 2. The run -/

/-- Runs the phases that the settings ask for, on an empty record. -/
def runPhases (settings : Settings) (compilation : Compilation) :
    Record × Except DuplicateArtifact Unit :=
  let candidates := Candidates.collect settings compilation
  let collected := collectionPhase candidates {}
  let (dispatched, outcome) :=
    if settings.generateDispatch then dispatchPhase settings compilation candidates collected
    else (collected, .ok ())
  match outcome with
  | .error duplicate => (dispatched, .error duplicate)
  | .ok () =>
    if settings.analyzeKeys then
      (keyPhase settings compilation candidates dispatched, .ok ())
    else (dispatched, .ok ())

/-- What a run yields, or the artifact name that came twice; and the log of the run. -/
structure RunOutcome where
  result : Except DuplicateArtifact Generation
  journal : List Console.LogRecord

/-- Runs the passes over a compilation. -/
def run (settings : Settings) (compilation : Compilation) : RunOutcome :=
  let (record, outcome) := runPhases settings compilation
  ⟨outcome.map fun _ => .ofRecord record, record.journal⟩

end ComponentPasses

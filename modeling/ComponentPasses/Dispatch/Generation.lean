import ComponentPasses.Candidates
import ComponentPasses.Conflict
import ComponentPasses.Console.Markup
import ComponentPasses.Dispatch.Emission
import ComponentPasses.Record

/-!
# Dispatch generation

The first pass makes a dispatcher for every candidate class.  What comes of one class depends on
the class alone: `ClassOutcome.ofType` gives the remarks it leads to and its two artifacts, if its
names and types can be written.  Conflicts among its parameters are reported either way.

`generateAll` runs over classes in order and counts those that got their artifacts.  It stops where
an artifact's name is taken, which cannot happen for candidate classes, and keeps what was recorded
up to there.
-/

namespace ComponentPasses.Dispatch

open Snapshot (Compilation DeclaredType)
open Console (LogRecord)

/-- What comes of one class: remarks, and its two artifacts if they can be written. -/
structure ClassOutcome where
  remarks : List Remark
  artifacts : Option (Artifact × Artifact)

/-- The warning about a class that is skipped. -/
def skipWarning (qualifiedName reason : String) : LogRecord :=
  ⟨.warning, "Skipping dispatch generation for '" ++ qualifiedName ++ "': " ++
    Console.escape reason⟩

/-- What comes of a class: its hierarchy, parameters and conflicts are reported, and its artifacts
are written or the reason is given why not. -/
def ClassOutcome.ofType (settings : Settings) (compilation : Compilation) (type : DeclaredType) :
    ClassOutcome :=
  let hierarchy := Hierarchy.ofType compilation type
  let info := ClassInfo.ofHierarchy hierarchy
  let parameters := Parameter.ofChain settings hierarchy.chain
  let remarks :=
    hierarchy.warnings.map .logged ++
      [.inspected info.qualifiedName (toString parameters.length ++ " parameters")
        (" -> ".intercalate info.hierarchy)] ++
      (conflictDiagnostics parameters).map .reported
  match emit info parameters with
  | .ok artifacts => ⟨remarks, some artifacts⟩
  | .error cause =>
    ⟨remarks ++ [.logged (skipWarning info.qualifiedName cause.message),
      .skipped info.qualifiedName cause.message], none⟩

/-- Adds two artifacts, keeping the first where only the second is refused. -/
def addBoth (record : Record) (artifacts : Artifact × Artifact) :
    Record × Except DuplicateArtifact Unit :=
  match record.add artifacts.1 with
  | .error duplicate => (record, .error duplicate)
  | .ok record =>
    match record.add artifacts.2 with
    | .error duplicate => (record, .error duplicate)
    | .ok record => (record, .ok ())

/-- Generates for one class; whether it got its artifacts. -/
def generate (settings : Settings) (compilation : Compilation) (record : Record)
    (type : DeclaredType) : Record × Except DuplicateArtifact Bool :=
  let outcome := ClassOutcome.ofType settings compilation type
  let noted := record.noteAll outcome.remarks
  match outcome.artifacts with
  | none => (noted, .ok false)
  | some artifacts =>
    let (added, result) := addBoth noted artifacts
    (added, result.map fun _ => true)

/-- Generates for classes in order; how many got their artifacts. -/
def generateAll (settings : Settings) (compilation : Compilation) (record : Record) :
    List DeclaredType → Record × Except DuplicateArtifact Nat
  | [] => (record, .ok 0)
  | type :: rest =>
    match generate settings compilation record type with
    | (record, .error duplicate) => (record, .error duplicate)
    | (record, .ok generated) =>
      let (record, count) := generateAll settings compilation record rest
      (record, count.map fun n => if generated then n + 1 else n)

end ComponentPasses.Dispatch

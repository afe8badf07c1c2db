import ComponentPasses.Generation
import ComponentPasses.Schema.Reading
import ComponentPasses.Snapshot.Reading
import ComponentPasses.Snapshot.Writing

/-!
# Findings as data

The written forms of diagnostics, artifacts, trace events and of everything a run yields, with all
their fields; and the schemas by which diagnostics and artifacts are read back.
-/

namespace ComponentPasses

open Data (Value)
open Schema

/-! ## 1. Diagnostics -/

/-- Reads the fields of a diagnostic. -/
def Diagnostic.ofFields (fields : Fields) : Checked Diagnostic :=
  Diagnostic.mk
    <$> required fields "id" asText
    <*> required fields "severity" (asChoice Severity.choices)
    <*> required fields "message" asText
    <*> defaulted fields "locations" [] (listOf Snapshot.Location.read)

/-- Reads a diagnostic. -/
def Diagnostic.read : Value → Checked Diagnostic :=
  model "Diagnostic" Diagnostic.ofFields

/-- A diagnostic with all its fields. -/
def Diagnostic.write (diagnostic : Diagnostic) : Value :=
  .record [("id", .text diagnostic.id), ("severity", .text diagnostic.severity.name),
    ("message", .text diagnostic.message),
    ("locations", .list (diagnostic.locations.map (·.write)))]

/-! ## 2. Artifacts -/

/-- The name of the schema of artifacts in messages. -/
def Artifact.modelName : String := "GeneratedArtifact"

/-- Reads the fields of an artifact. -/
def Artifact.ofFields (fields : Fields) : Checked Artifact :=
  Artifact.mk
    <$> required fields "name" asText
    <*> required fields "content" asText

/-- Reads an artifact. -/
def Artifact.read : Value → Checked Artifact :=
  model modelName Artifact.ofFields

/-- An artifact with all its fields. -/
def Artifact.write (artifact : Artifact) : Value :=
  .record [("name", .text artifact.name), ("content", .text artifact.content)]

/-- An artifact without its content. -/
def Artifact.writeName (artifact : Artifact) : Value :=
  .record [("name", .text artifact.name)]

/-! ## 3. Runs -/

/-- An event with all its fields; the parent is the place of the start of its phase, or null. -/
def Event.write (event : Event) : Value :=
  .record [("type", .text event.kind.name), ("description", .text event.description),
    ("parent", match event.parent with
      | some place => .integer place
      | none => .null),
    ("metadata", .record (event.metadata.map fun (key, text) => (key, .text text)))]

/-- What a run yields with all its fields; the artifacts with or without their contents. -/
def Generation.write (generation : Generation) (withContents : Bool) : Value :=
  .record [
    ("artifacts", .list (generation.artifacts.map
      (if withContents then (·.write) else (·.writeName)))),
    ("diagnostics", .list (generation.diagnostics.map (·.write))),
    ("trace_events", .list (generation.events.map (·.write))),
    ("success", .flag generation.success)]

end ComponentPasses

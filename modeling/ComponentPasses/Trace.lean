/-!
# Traces

A trace records a run step by step.  Phases nest: an event belongs to the innermost phase that is
open when it is recorded, and the end of a phase belongs to the phase it closes.  Events are named
by their place in the trace, so a phase is named by the place of the event that started it.
-/

namespace ComponentPasses

/-- What an event tells. -/
inductive EventKind
  | phaseStart
  | phaseEnd
  | candidate
  | skipped
  | diagnostic
  | inspection
deriving DecidableEq, Repr

/-- The name of a kind of event. -/
def EventKind.name : EventKind → String
  | .phaseStart => "phase_start"
  | .phaseEnd => "phase_end"
  | .candidate => "candidate"
  | .skipped => "skipped"
  | .diagnostic => "diagnostic"
  | .inspection => "inspection"

/-- One step of a run; the parent is the place of the start of the phase it belongs to. -/
structure Event where
  kind : EventKind
  description : String
  parent : Option Nat := none
  metadata : List (String × String) := []
deriving DecidableEq, Repr

/-- The events of a run in order, and the phases still open, innermost first. -/
structure Trace where
  events : List Event := []
  openPhases : List Nat := []
deriving DecidableEq, Repr, Inhabited

namespace Trace

/-- Records an event in the innermost open phase. -/
def record (trace : Trace) (kind : EventKind) (description : String)
    (metadata : List (String × String)) : Trace :=
  { trace with
    events := trace.events ++ [⟨kind, description, trace.openPhases.head?, metadata⟩] }

/-- Starts a phase inside the innermost open one. -/
def startPhase (trace : Trace) (name : String) (detail : String := "") : Trace :=
  { trace.record .phaseStart name [("detail", detail)] with
    openPhases := trace.events.length :: trace.openPhases }

/-- Ends the innermost open phase; nothing happens where none is open. -/
def endPhase (trace : Trace) : Trace :=
  match trace.openPhases with
  | [] => trace
  | phase :: others =>
    { events := trace.events ++ [⟨.phaseEnd, "End Phase", some phase, []⟩], openPhases := others }

/-- Records that something was selected for a pass. -/
def candidate (trace : Trace) (kind name : String) : Trace :=
  trace.record .candidate ("Selected " ++ kind ++ " '" ++ name ++ "'")
    [("kind", kind), ("name", name)]

/-- Records that a candidate was dropped. -/
def skipped (trace : Trace) (name reason : String) : Trace :=
  trace.record .skipped ("Skipped '" ++ name ++ "'") [("reason", reason)]

/-- Records that a finding was reported. -/
def diagnostic (trace : Trace) (id message location : String) : Trace :=
  trace.record .diagnostic (id ++ ": " ++ message) [("id", id), ("location", location)]

/-- Records a decision. -/
def inspection (trace : Trace) (subject outcome : String) (detail : String := "") : Trace :=
  trace.record .inspection ("Inspecting '" ++ subject ++ "'")
    [("outcome", outcome), ("detail", detail)]

end Trace

end ComponentPasses

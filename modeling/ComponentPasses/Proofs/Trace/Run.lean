import ComponentPasses.Proofs.Generation
import ComponentPasses.Proofs.Trace.Brackets

/-!
# The trace of a run

A run makes its **phases** one after the other: it starts a phase, logs in it, and ends it before
the next (`phasesOf`, `trace_runPhases`).  So its events are those of its phases in a row
(`replay_phases`), none of which starts inside another.

Traces are well bracketed whatever calls are made on them (`Trace.wellBracketed_replay`).  With it,
a run closes every phase it starts, and each of its other events lies in exactly one phase
(`trace_bracketed`).
-/

namespace ComponentPasses

open Snapshot (Compilation)

/-! ## 1. Remarks as entries -/

/-- What a remark leaves in the trace; nothing if it is meant for the log. -/
def Remark.entry? : Remark → Option Trace.Entry
  | .inspected subject outcome detail => some (.inspection subject outcome detail)
  | .reported diagnostic =>
    some (.diagnostic diagnostic.id diagnostic.message diagnostic.location.text)
  | .skipped name reason => some (.skipped name reason)
  | .logged _ => none

/-- What remarks leave in the trace, in order. -/
def entriesOf (remarks : List Remark) : List Trace.Entry :=
  remarks.filterMap Remark.entry?

theorem entriesOf_append (front back : List Remark) :
    entriesOf (front ++ back) = entriesOf front ++ entriesOf back :=
  List.filterMap_append

theorem Record.trace_noteAll_eq_replay (record : Record) (remarks : List Remark) :
    (record.noteAll remarks).trace = record.trace.replay ((entriesOf remarks).map .log) := by
  induction remarks generalizing record with
  | nil => rfl
  | cons remark rest ih =>
    rw [noteAll_cons, ih]
    cases remark <;> rfl

namespace Trace

/-! ## 2. Phases in a row -/

/-- A phase with nothing but entries in it. -/
structure Phase where
  name : String
  detail : String
  entries : List Entry

/-- The calls that make a phase. -/
def Phase.calls (phase : Phase) : List Call :=
  .start phase.name phase.detail :: (phase.entries.map .log ++ [.finish])

/-- The events of a phase that starts at the place, with no other phase around it. -/
def Phase.events (phase : Phase) (start : Nat) : List Event :=
  ⟨.phaseStart, phase.name, none, [("detail", phase.detail)]⟩ ::
    (phase.entries.map (·.event (some start)) ++ [⟨.phaseEnd, "End Phase", some start, []⟩])

/-- The events of phases in a row, the first of which starts at the place. -/
def eventsOfRow (start : Nat) : List Phase → List Event
  | [] => []
  | phase :: rest =>
    phase.events start ++ eventsOfRow (start + (phase.events start).length) rest

theorem replay_append (trace : Trace) (front back : List Call) :
    trace.replay (front ++ back) = (trace.replay front).replay back :=
  List.foldl_append

theorem replay_log (trace : Trace) (entries : List Entry) :
    trace.replay (entries.map .log) =
      { trace with
        events := trace.events ++ entries.map (·.event trace.openPhases.head?) } := by
  induction entries generalizing trace with
  | nil => simp [replay]
  | cons entry rest ih =>
    rw [List.map_cons, replay, List.foldl_cons, ← replay, apply, log_eq, ih]
    simp

theorem replay_phase (events : List Event) (phase : Phase) :
    replay ⟨events, []⟩ phase.calls = ⟨events ++ phase.events events.length, []⟩ := by
  rw [Phase.calls, replay, List.foldl_cons, ← replay, replay_append, replay_log]
  simp [apply, startPhase, record, replay, endPhase, Phase.events]

theorem replay_phases (events : List Event) (phases : List Phase) :
    replay ⟨events, []⟩ (phases.flatMap Phase.calls) =
      ⟨events ++ eventsOfRow events.length phases, []⟩ := by
  induction phases generalizing events with
  | nil => simp [replay, eventsOfRow]
  | cons phase rest ih =>
    rw [List.flatMap_cons, replay_append, replay_phase, ih, eventsOfRow, List.append_assoc,
      List.length_append]

/-- An entry belongs to the phase it is logged in, and neither starts nor ends one. -/
theorem Entry.parent_event (phase : Option Nat) (entry : Entry) :
    (entry.event phase).parent = phase ∧ (entry.event phase).kind ≠ .phaseStart ∧
      (entry.event phase).kind ≠ .phaseEnd := by
  cases entry <;> exact ⟨rfl, nofun, nofun⟩

/-- Of the events of phases in a row, the starts belong to no phase, and all others to one. -/
theorem kind_eq_phaseStart_iff {start : Nat} {phases : List Phase} {event : Event}
    (member : event ∈ eventsOfRow start phases) :
    event.kind = .phaseStart ↔ event.parent = none := by
  induction phases generalizing start with
  | nil => exact absurd member List.not_mem_nil
  | cons phase rest ih =>
    rcases List.mem_append.mp member with within | later
    · rcases List.mem_cons.mp within with rfl | within
      · exact iff_of_true rfl rfl
      rcases List.mem_append.mp within with logged | last
      · obtain ⟨entry, -, rfl⟩ := List.mem_map.mp logged
        obtain ⟨parent, kind, -⟩ := entry.parent_event (some start)
        exact iff_of_false kind (by simp [parent])
      · rw [List.mem_singleton.mp last]
        exact iff_of_false nofun nofun
    · exact ih later

end Trace

/-! ## 3. The phases of a run -/

open Trace (Phase eventsOfRow stillOpen startsAt LiesIn)

/-- What is logged when the candidates are collected: the classes, and after them the routines. -/
def collectionEntries (candidates : Candidates) : List Trace.Entry :=
  candidates.classes.map (fun type => .candidate "class" type.qualifiedName) ++
    candidates.routines.map fun routine => .candidate "render routine" routine.name

/-- The phases of a run. -/
def phasesOf (settings : Settings) (compilation : Compilation) : List Phase :=
  let candidates := Candidates.collect settings compilation
  ⟨"Collection", "Selecting candidate classes and render routines",
    collectionEntries candidates⟩ ::
  ((if settings.generateDispatch then
      [⟨"Dispatch Generation", toString candidates.classes.length ++ " candidate classes",
        entriesOf (candidates.classes.flatMap (Dispatch.remarksOf settings compilation))⟩]
    else []) ++
  (if settings.analyzeKeys then
      [⟨"Key Analysis", toString candidates.routines.length ++ " render routines",
        entriesOf (LoopKeys.analyze ⟨settings, compilation⟩ candidates.routines).2⟩]
    else []))

theorem trace_collectionPhase (candidates : Candidates) (record : Record) :
    (collectionPhase candidates record).trace =
      record.trace.replay (Phase.calls ⟨"Collection",
        "Selecting candidate classes and render routines", collectionEntries candidates⟩) := by
  simp only [Phase.calls, collectionEntries, Trace.replay, List.map_append, List.map_map,
    List.foldl_cons, List.foldl_append, List.foldl_map, List.foldl_nil]
  rfl

/-- A phase in which remarks are noted. -/
theorem trace_notedPhase (record : Record) (name detail : String) (remarks : List Remark)
    (artifacts : List Artifact) :
    (((record.startPhase name detail).extend remarks artifacts).endPhase).trace =
      record.trace.replay (Phase.calls ⟨name, detail, entriesOf remarks⟩) := by
  have noted := Record.trace_noteAll_eq_replay (record.startPhase name detail) remarks
  rw [Phase.calls, Trace.replay, List.foldl_cons, ← Trace.replay, Trace.replay_append]
  exact congrArg Trace.endPhase noted

/-- A run makes its phases one after the other. -/
theorem trace_runPhases (settings : Settings) (compilation : Compilation) :
    (runPhases settings compilation).1.trace =
      Trace.replay {} ((phasesOf settings compilation).flatMap Phase.calls) := by
  set candidates := Candidates.collect settings compilation with collected
  have collection := trace_collectionPhase candidates {}
  rw [phasesOf, List.flatMap_cons, List.flatMap_append, Trace.replay_append, Trace.replay_append,
    ← collected, ← collection]
  simp only [runPhases, ← collected]
  obtain ⟨dispatched, outcome, trace⟩ : ∃ dispatched,
      (if settings.generateDispatch then
          dispatchPhase settings compilation candidates (collectionPhase candidates {})
        else (collectionPhase candidates {}, .ok ())) = (dispatched, .ok ()) ∧
      dispatched.trace = (collectionPhase candidates {}).trace.replay
        ((if settings.generateDispatch then
            [⟨"Dispatch Generation", toString candidates.classes.length ++ " candidate classes",
              entriesOf (candidates.classes.flatMap (Dispatch.remarksOf settings compilation))⟩]
          else []).flatMap Phase.calls) := by
    by_cases on : settings.generateDispatch = true
    · rw [if_pos on, if_pos on, List.flatMap_singleton, collected, dispatchPhase_eq _ rfl]
      exact ⟨_, rfl, trace_notedPhase _ _ _ _ _⟩
    · rw [if_neg on, if_neg on]
      exact ⟨_, rfl, rfl⟩
  rw [outcome, ← trace]
  by_cases on : settings.analyzeKeys = true
  · simp only [if_pos on, List.flatMap_singleton, keyPhase_eq]
    exact trace_notedPhase _ _ _ _ _
  · simp only [if_neg on, List.flatMap_nil]
    rfl

/-- A run completes with the events of its phases, and with no phase open. -/
theorem run_events (settings : Settings) (compilation : Compilation) :
    ∃ generation, (run settings compilation).result = .ok generation ∧
      (runPhases settings compilation).1.trace = ⟨generation.events, []⟩ ∧
      generation.events = eventsOfRow 0 (phasesOf settings compilation) := by
  obtain ⟨record, phases, -⟩ := runPhases_eq settings compilation
  have trace : record.trace = ⟨eventsOfRow 0 (phasesOf settings compilation), []⟩ := by
    have replayed := trace_runPhases settings compilation
    rw [phases] at replayed
    exact replayed.trans (Trace.replay_phases [] _)
  refine ⟨.ofRecord record, ?_, ?_, ?_⟩
  · simp only [run, phases]
    rfl
  · rw [phases, trace, Generation.ofRecord, trace]
  · rw [Generation.ofRecord, trace]

/-! ## 4. Brackets -/

/-- **Phases are well bracketed.**  After any calls on an empty trace, ends with no phase open among
them, the open phases are those that started and have not ended, each event belongs to the phase
that was innermost then, which for an end is the phase it closes, and no phase is closed twice; a
further call adds at most one event, and an end with no phase open adds none.  A run completes with
no phase open.  None of its phases starts inside another, and every event but the starts and ends
lies in exactly one phase, to which it belongs. -/
theorem trace_bracketed :
    (∀ calls : List Trace.Call,
      let trace := Trace.replay {} calls
      trace.openPhases.reverse = stillOpen trace.events ∧
      (∀ place event, trace.events[place]? = some event →
        event.parent = (stillOpen (trace.events.take place)).getLast? ∧
        (event.kind = .phaseEnd → ∃ phase, event.parent = some phase)) ∧
      (∀ (phase place place' : Nat) (event event' : Event), trace.events[place]? = some event →
        trace.events[place']? = some event' →
        event.closes phase = true → event'.closes phase = true → place = place') ∧
      ∀ call, (trace.apply call).events =
        trace.events ++ (call.event? (stillOpen trace.events).getLast?).toList) ∧
    ∀ (settings : Settings) (snapshot : Snapshot),
      let compilation := Compilation.ofSnapshot snapshot
      ∃ generation, (run settings compilation).result = .ok generation ∧
        (runPhases settings compilation).1.trace = ⟨generation.events, []⟩ ∧
        stillOpen generation.events = [] ∧
        (∀ place, startsAt generation.events place = true →
          ∀ phase, ¬ LiesIn generation.events place phase) ∧
        ∀ place event, generation.events[place]? = some event →
          event.kind ≠ .phaseStart → event.kind ≠ .phaseEnd →
          ∃ phase, event.parent = some phase ∧
            ∀ other, LiesIn generation.events place other ↔ other = phase := by
  refine ⟨fun calls => ?calls, fun settings snapshot => ?run⟩
  case calls =>
    intro trace
    have bracketed := Trace.wellBracketed_replay calls
    refine ⟨bracketed.stack, fun place event present => ⟨bracketed.bracketed.parent present, ?_⟩,
      fun _ _ _ _ _ => bracketed.bracketed.closes_unique, fun call => ?_⟩
    · exact fun ends => Option.ne_none_iff_exists'.mp
        (bracketed.bracketed.ends event (List.mem_of_getElem? present) ends)
    · rw [← bracketed.head?_openPhases]
      exact Trace.events_apply _ call
  case run =>
    intro compilation
    obtain ⟨generation, completed, trace, events⟩ := run_events settings compilation
    have wellBracketed := Trace.wellBracketed_replay
      ((phasesOf settings compilation).flatMap Phase.calls)
    rw [← trace_runPhases, trace] at wellBracketed
    have bracketed : Trace.Bracketed generation.events := wellBracketed.bracketed
    have closed : stillOpen generation.events = [] := wellBracketed.stack.symm
    have starts : ∀ event ∈ generation.events, event.kind = .phaseStart ↔ event.parent = none := by
      rw [events]
      exact fun event => Trace.kind_eq_phaseStart_iff
    refine ⟨generation, completed, trace, closed, ?apart, ?inside⟩
    case apart =>
      intro place start phase lies
      obtain ⟨event, present, kind⟩ := (Option.any_eq_true _ _).mp start
      have kind : event.kind = .phaseStart := of_decide_eq_true kind
      have none := (starts event (List.mem_of_getElem? present)).mp kind
      rw [bracketed.parent present, List.getLast?_eq_none_iff] at none
      rw [bracketed.liesIn_iff closed present (by simp [kind]), none] at lies
      exact List.not_mem_nil lies
    case inside =>
      intro place event present notStart notEnd
      obtain ⟨phase, parent⟩ := Option.ne_none_iff_exists'.mp
        (mt (starts event (List.mem_of_getElem? present)).mpr notStart)
      have around := bracketed.mem_stillOpen present parent
      refine ⟨phase, parent, fun other => ?_⟩
      rw [bracketed.liesIn_iff closed present notEnd]
      constructor
      · exact fun h => bracketed.stillOpen_unique (fun event member => (starts event member).mp) h
          around
      · rintro rfl
        exact around

end ComponentPasses

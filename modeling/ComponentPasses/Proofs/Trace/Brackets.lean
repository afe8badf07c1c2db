import ComponentPasses.Trace
import Mathlib.Data.List.Nodup

/-!
# Phases are well bracketed

A trace keeps a stack of the phases that are open.  The stack does not go into the events, so what
it was has to be read off them: a phase is **still open** after some events if its start is among
them and its end is not (`stillOpen`).

Whatever calls are made on an empty trace, ends with no phase open among them, the stack is what the
events leave open (`wellBracketed_replay`), and every event belongs to the phase that was innermost
when it was recorded; for the end of a phase that is the phase it closes (`Bracketed`).  So no phase
is closed twice (`Bracketed.end_unique`).

Where all phases are closed in the end, the phases that were open at an event are those it **lies
in**, between start and end (`Bracketed.liesIn_iff`).  If besides no start belongs to a phase, at
most one is open at a time (`Bracketed.stillOpen_unique`).
-/

namespace ComponentPasses

/-- Whether the event is the end of the phase. -/
def Event.closes (event : Event) (phase : Nat) : Bool :=
  event.kind = .phaseEnd && event.parent = some phase

namespace Trace

/-! ## 1. Calls -/

/-- What a pass logs: a candidate, a candidate that was dropped, a finding, or a decision. -/
inductive Entry
  | candidate (kind name : String)
  | skipped (name reason : String)
  | diagnostic (id message location : String)
  | inspection (subject outcome detail : String)

/-- A call on a trace: a phase starts, the innermost one ends, or something is logged. -/
inductive Call
  | start (name detail : String)
  | finish
  | log (entry : Entry)

/-- Logs an entry. -/
def log (trace : Trace) : Entry → Trace
  | .candidate kind name => trace.candidate kind name
  | .skipped name reason => trace.skipped name reason
  | .diagnostic id message location => trace.diagnostic id message location
  | .inspection subject outcome detail => trace.inspection subject outcome detail

/-- Makes a call. -/
def apply (trace : Trace) : Call → Trace
  | .start name detail => trace.startPhase name detail
  | .finish => trace.endPhase
  | .log entry => trace.log entry

/-- Makes calls in order. -/
def replay (trace : Trace) (calls : List Call) : Trace :=
  calls.foldl apply trace

/-- The event of an entry that is logged in a phase. -/
def Entry.event (phase : Option Nat) : Entry → Event
  | .candidate kind name =>
    ⟨.candidate, "Selected " ++ kind ++ " '" ++ name ++ "'", phase,
      [("kind", kind), ("name", name)]⟩
  | .skipped name reason => ⟨.skipped, "Skipped '" ++ name ++ "'", phase, [("reason", reason)]⟩
  | .diagnostic id message location =>
    ⟨.diagnostic, id ++ ": " ++ message, phase, [("id", id), ("location", location)]⟩
  | .inspection subject outcome detail =>
    ⟨.inspection, "Inspecting '" ++ subject ++ "'", phase,
      [("outcome", outcome), ("detail", detail)]⟩

/-- The event that a call adds where a phase is innermost.  The end of a phase adds none where none
is open. -/
def Call.event? (innermost : Option Nat) : Call → Option Event
  | .start name detail => some ⟨.phaseStart, name, innermost, [("detail", detail)]⟩
  | .finish => innermost.map fun phase => ⟨.phaseEnd, "End Phase", some phase, []⟩
  | .log entry => some (entry.event innermost)

theorem log_eq (trace : Trace) (entry : Entry) :
    trace.log entry =
      { trace with events := trace.events ++ [entry.event trace.openPhases.head?] } := by
  cases entry <;> rfl

theorem events_apply (trace : Trace) (call : Call) :
    (trace.apply call).events =
      trace.events ++ (call.event? trace.openPhases.head?).toList := by
  cases call with
  | start name detail => rfl
  | finish =>
    unfold apply endPhase
    cases trace.openPhases with
    | nil => simp [Call.event?]
    | cons phase others => rfl
  | log entry => rw [apply, log_eq]; rfl

theorem openPhases_start (trace : Trace) (name detail : String) :
    (trace.apply (.start name detail)).openPhases = trace.events.length :: trace.openPhases := rfl

theorem openPhases_finish (trace : Trace) :
    (trace.apply .finish).openPhases = trace.openPhases.tail := by
  unfold apply endPhase
  cases h : trace.openPhases with
  | nil => exact h
  | cons phase others => rfl

theorem openPhases_log (trace : Trace) (entry : Entry) :
    (trace.apply (.log entry)).openPhases = trace.openPhases := by
  rw [apply, log_eq]

/-- An event belongs to the phase that is innermost where it is added, and an end always to one. -/
theorem Call.parent_of_event? {innermost : Option Nat} {call : Call} {event : Event}
    (h : call.event? innermost = some event) :
    event.parent = innermost ∧ (event.kind = .phaseEnd → event.parent ≠ none) := by
  cases call with
  | start name detail =>
    cases h
    exact ⟨rfl, nofun⟩
  | finish =>
    obtain ⟨phase, rfl, rfl⟩ := Option.map_eq_some_iff.mp h
    exact ⟨rfl, fun _ => Option.some_ne_none phase⟩
  | log entry =>
    cases h
    cases entry <;> exact ⟨rfl, nofun⟩

/-! ## 2. What events leave open -/

/-- Whether a phase starts at the place. -/
def startsAt (events : List Event) (place : Nat) : Bool :=
  events[place]?.any fun event => event.kind = .phaseStart

/-- The phases that start among the events and do not end among them, innermost last. -/
def stillOpen (events : List Event) : List Nat :=
  (List.range events.length).filter fun phase =>
    startsAt events phase && !events.any (·.closes phase)

variable {events : List Event} {event : Event} {place phase : Nat}

theorem lt_length_of_startsAt (h : startsAt events phase = true) : phase < events.length := by
  obtain ⟨event, present, -⟩ := (Option.any_eq_true _ _).mp h
  exact (List.getElem?_eq_some_iff.mp present).1

theorem mem_stillOpen : phase ∈ stillOpen events ↔
    startsAt events phase = true ∧ ∀ event ∈ events, event.closes phase = false := by
  simp only [stillOpen, List.mem_filter, List.mem_range, Bool.and_eq_true, Bool.not_eq_true',
    List.any_eq_false, Bool.not_eq_true]
  exact ⟨And.right, fun h => ⟨lt_length_of_startsAt h.1, h⟩⟩

theorem nodup_stillOpen (events : List Event) : (stillOpen events).Nodup :=
  List.nodup_range.filter _

theorem startsAt_take {count : Nat} :
    startsAt (events.take count) place = true ↔ place < count ∧ startsAt events place = true := by
  simp only [startsAt, List.getElem?_take]
  split <;> simp [*]

/-- A further event takes out the phase that it closes, and adds the phase that it starts. -/
theorem stillOpen_concat (fresh : ∀ earlier ∈ events, earlier.closes events.length = false) :
    stillOpen (events ++ [event]) =
      (stillOpen events).filter (fun phase => !event.closes phase) ++
        if event.kind = .phaseStart then [events.length] else [] := by
  have before : ∀ phase ∈ List.range events.length,
      (startsAt (events ++ [event]) phase && !(events ++ [event]).any (·.closes phase)) =
        (!event.closes phase && (startsAt events phase && !events.any (·.closes phase))) := by
    intro phase h
    rw [startsAt, List.getElem?_append_left (List.mem_range.mp h), List.any_append, startsAt,
      List.any_cons, List.any_nil, Bool.or_false, Bool.not_or]
    ac_rfl
  have now : (startsAt (events ++ [event]) events.length &&
      !(events ++ [event]).any (·.closes events.length)) = decide (event.kind = .phaseStart) := by
    have unclosed : events.any (·.closes events.length) = false := by simpa using fresh
    rw [startsAt, List.getElem?_concat_length, Option.any_some, List.any_append, unclosed]
    by_cases start : event.kind = .phaseStart <;> simp [start, Event.closes]
  rw [stillOpen, List.length_append, List.length_singleton, List.range_succ, List.filter_append,
    List.filter_congr before, ← List.filter_filter, ← stillOpen, List.filter_singleton, now]
  by_cases start : event.kind = .phaseStart <;> simp [start]

/-! ## 3. Bracketed events -/

/-- Each event belongs to the phase that was innermost when it was recorded, and each end to some
phase: the one it closes. -/
structure Bracketed (events : List Event) : Prop where
  parent : ∀ {place event}, events[place]? = some event →
    event.parent = (stillOpen (events.take place)).getLast?
  ends : ∀ event ∈ events, event.kind = .phaseEnd → event.parent ≠ none

namespace Bracketed

theorem nil : Bracketed [] := ⟨nofun, nofun⟩

/-- An event in the innermost phase may follow. -/
theorem concat (bracketed : Bracketed events)
    (parent : event.parent = (stillOpen events).getLast?)
    (ends : event.kind = .phaseEnd → event.parent ≠ none) : Bracketed (events ++ [event]) where
  parent := by
    intro place other present
    rcases Nat.lt_trichotomy place events.length with before | rfl | after
    · rw [List.getElem?_append_left before] at present
      rw [List.take_append_of_le_length (Nat.le_of_lt before)]
      exact bracketed.parent present
    · rw [List.getElem?_concat_length] at present
      cases present
      rw [List.take_left]
      exact parent
    · have inside := (List.getElem?_eq_some_iff.mp present).1
      rw [List.length_append, List.length_singleton] at inside
      omega
  ends := List.forall_mem_append.mpr ⟨bracketed.ends, List.forall_mem_singleton.mpr ends⟩

/-- An event belongs to a phase that was open when it was recorded. -/
theorem mem_stillOpen (bracketed : Bracketed events) (present : events[place]? = some event)
    (parent : event.parent = some phase) : phase ∈ stillOpen (events.take place) := by
  rw [bracketed.parent present] at parent
  exact List.mem_of_getLast? parent

/-- What an event closes was open when it was recorded. -/
theorem mem_stillOpen_of_closes (bracketed : Bracketed events)
    (present : events[place]? = some event) (closes : event.closes phase = true) :
    phase ∈ stillOpen (events.take place) := by
  simp only [Event.closes, Bool.and_eq_true, decide_eq_true_eq] at closes
  exact bracketed.mem_stillOpen present closes.2

/-- No event closes a phase that has not started. -/
theorem not_closes_length (bracketed : Bracketed events) :
    ∀ event ∈ events, event.closes events.length = false := by
  intro event member
  by_contra closes
  obtain ⟨place, present⟩ := List.getElem?_of_mem member
  have wasOpen := bracketed.mem_stillOpen_of_closes present (eq_true_of_ne_false closes)
  have started := lt_length_of_startsAt (Trace.mem_stillOpen.mp wasOpen).1
  rw [List.length_take] at started
  omega

/-- The end of the innermost phase takes out that phase alone, since no phase is open twice. -/
theorem stillOpen_end (bracketed : Bracketed events) {outer : List Nat}
    (opened : stillOpen events = outer ++ [phase]) (description : String)
    (metadata : List (String × String)) :
    stillOpen (events ++ [⟨.phaseEnd, description, some phase, metadata⟩]) = outer := by
  have once := nodup_stillOpen events
  rw [opened] at once
  have kept : ∀ other ∈ outer,
      (!(⟨.phaseEnd, description, some phase, metadata⟩ : Event).closes other) = true := by
    intro other member
    have apart : phase ≠ other := by
      rintro rfl
      exact List.disjoint_of_nodup_append once member (List.mem_singleton_self phase)
    simpa [Event.closes] using apart
  rw [stillOpen_concat bracketed.not_closes_length, opened, List.filter_append,
    List.filter_eq_self.mpr kept]
  simp [Event.closes]

/-- A phase is closed at most once. -/
theorem closes_unique (bracketed : Bracketed events) {place' : Nat} {event' : Event}
    (present : events[place]? = some event) (present' : events[place']? = some event')
    (closes : event.closes phase = true) (closes' : event'.closes phase = true) :
    place = place' := by
  -- The later of two ends would close a phase that is closed already.
  have not_before : ∀ {first later : Nat} {one other : Event}, first < later →
      events[first]? = some one → events[later]? = some other →
      one.closes phase = true → other.closes phase = true → False := by
    intro first later one other before here there ended again
    have wasOpen := Trace.mem_stillOpen.mp (bracketed.mem_stillOpen_of_closes there again)
    have member : one ∈ events.take later :=
      List.mem_of_getElem? ((List.getElem?_take_of_lt before).trans here)
    exact Bool.false_ne_true ((wasOpen.2 one member).symm.trans ended)
  rcases Nat.lt_trichotomy place place' with before | same | after
  · exact (not_before before present present' closes closes').elim
  · exact same
  · exact (not_before after present' present closes' closes).elim

end Bracketed

/-! ## 4. Well bracketed traces -/

/-- The phases that are open are those that the events leave open, and the events are bracketed. -/
structure WellBracketed (trace : Trace) : Prop where
  stack : trace.openPhases.reverse = stillOpen trace.events
  bracketed : Bracketed trace.events

theorem WellBracketed.head?_openPhases {trace : Trace} (h : trace.WellBracketed) :
    trace.openPhases.head? = (stillOpen trace.events).getLast? := by
  rw [← h.stack, List.getLast?_reverse]

/-- **A call keeps a trace well bracketed.** -/
theorem WellBracketed.apply {trace : Trace} (h : trace.WellBracketed) (call : Call) :
    (trace.apply call).WellBracketed where
  stack := by
    have fresh := h.bracketed.not_closes_length
    cases call with
    | start name detail =>
      rw [openPhases_start, events_apply, Call.event?, Option.toList_some,
        stillOpen_concat fresh, List.reverse_cons, h.stack, if_pos rfl]
      simp [Event.closes]
    | finish =>
      rw [openPhases_finish, events_apply]
      have stack := h.stack
      cases opened : trace.openPhases with
      | nil => simpa [Call.event?, opened] using stack
      | cons phase others =>
        rw [opened, List.reverse_cons] at stack
        exact (h.bracketed.stillOpen_end stack.symm _ _).symm
    | log entry =>
      rw [openPhases_log, h.stack, events_apply, Call.event?, Option.toList_some,
        stillOpen_concat fresh]
      cases entry <;> simp [Event.closes, Entry.event]
  bracketed := by
    rw [events_apply, h.head?_openPhases]
    cases added : call.event? (stillOpen trace.events).getLast? with
    | none => simpa using h.bracketed
    | some event =>
      obtain ⟨parent, ends⟩ := Call.parent_of_event? added
      exact h.bracketed.concat parent ends

theorem WellBracketed.replay {trace : Trace} (h : trace.WellBracketed) (calls : List Call) :
    (trace.replay calls).WellBracketed := by
  induction calls generalizing trace with
  | nil => exact h
  | cons call rest ih => exact ih (h.apply call)

/-- **Whatever calls are made on an empty trace, it is well bracketed.** -/
theorem wellBracketed_replay (calls : List Call) : (replay {} calls).WellBracketed :=
  WellBracketed.replay ⟨rfl, .nil⟩ calls

/-! ## 5. Events inside phases -/

/-- Whether the place is between the start of the phase and its end. -/
def LiesIn (events : List Event) (place phase : Nat) : Prop :=
  startsAt events phase = true ∧ phase < place ∧
    ∃ later event, place < later ∧ events[later]? = some event ∧ event.closes phase = true

namespace Bracketed

/-- Where all phases are closed in the end, those that were open at an event are those it lies in,
unless the event is an end. -/
theorem liesIn_iff (bracketed : Bracketed events) (closed : stillOpen events = [])
    (present : events[place]? = some event) (inside : event.kind ≠ .phaseEnd) :
    LiesIn events place phase ↔ phase ∈ stillOpen (events.take place) := by
  rw [Trace.mem_stillOpen, startsAt_take]
  constructor
  · rintro ⟨start, before, later, last, after, there, ends⟩
    refine ⟨⟨before, start⟩, fun other member => Bool.eq_false_iff.mpr fun closes => ?_⟩
    obtain ⟨early, here⟩ := List.getElem?_of_mem member
    have short := (List.getElem?_eq_some_iff.mp here).1
    rw [List.length_take] at short
    rw [List.getElem?_take_of_lt (by omega)] at here
    have := bracketed.closes_unique here there closes ends
    omega
  · rintro ⟨⟨before, start⟩, unclosed⟩
    have ended : phase ∉ stillOpen events := by simp [closed]
    rw [Trace.mem_stillOpen, not_and, not_forall] at ended
    obtain ⟨last, ended⟩ := ended start
    obtain ⟨member, ends⟩ := Classical.not_imp.mp ended
    have ends := eq_true_of_ne_false ends
    obtain ⟨later, there⟩ := List.getElem?_of_mem member
    refine ⟨start, before, later, last, ?_, there, ends⟩
    by_contra notAfter
    rcases Nat.lt_or_eq_of_le (Nat.le_of_not_lt notAfter) with early | rfl
    · have member := List.mem_of_getElem? ((List.getElem?_take_of_lt early).trans there)
      exact Bool.false_ne_true ((unclosed last member).symm.trans ends)
    · rw [present] at there
      cases there
      simp [Event.closes, inside] at ends

/-- If no start belongs to a phase, no phase is open beside another. -/
theorem stillOpen_unique (bracketed : Bracketed events)
    (flat : ∀ event ∈ events, event.kind = .phaseStart → event.parent = none)
    {count phase phase' : Nat} (h : phase ∈ stillOpen (events.take count))
    (h' : phase' ∈ stillOpen (events.take count)) : phase = phase' := by
  -- The second of two open phases would have started inside the first.
  have not_before : ∀ {first second : Nat}, first < second →
      first ∈ stillOpen (events.take count) → second ∈ stillOpen (events.take count) → False := by
    intro first second before one other
    rw [Trace.mem_stillOpen, startsAt_take] at one other
    obtain ⟨start, present, kind⟩ := (Option.any_eq_true _ _).mp other.1.2
    have none := flat start (List.mem_of_getElem? present) (of_decide_eq_true kind)
    rw [bracketed.parent present, List.getLast?_eq_none_iff] at none
    have still : first ∈ stillOpen (events.take second) := by
      refine Trace.mem_stillOpen.mpr ⟨startsAt_take.mpr ⟨before, one.1.2⟩, fun event member => ?_⟩
      exact one.2 event ((List.take_subset_take_left events (Nat.le_of_lt other.1.1)) member)
    rw [none] at still
    exact List.not_mem_nil still
  rcases Nat.lt_trichotomy phase phase' with before | same | after
  · exact (not_before before h h').elim
  · exact same
  · exact (not_before after h' h).elim

end Bracketed

end Trace

end ComponentPasses

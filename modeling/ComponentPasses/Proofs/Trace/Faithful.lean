import ComponentPasses.Proofs.Artifacts
import ComponentPasses.Proofs.Dispatch.Isolation
import ComponentPasses.Proofs.Journal
import ComponentPasses.Proofs.Trace.Run
import Mathlib.Data.List.Forall2

/-!
# The trace tells what a run did

What the events of one kind **tell** is what their phases log (`told_eventsOfRow`).  So the trace of
a run can be held against its result, kind by kind (`run_told`):

* its findings are told in order, each with its text and where it is shown;
* so are its candidates, the classes before the routines;
* with dispatch generation, what is told of skipped candidates are those candidate classes, in
  order, whose artifacts are missing.

The last rests on two facts about a candidate class.  It is skipped exactly if it cannot be written
(`forall₂_skips`), and its names are among those of the artifacts exactly if it can
(`mem_names_allArtifacts_iff`).
-/

namespace ComponentPasses

open Snapshot (Compilation DeclaredType)
open Dispatch (infoOf parametersOf remarksOf artifactsOf namesOf isEmitted)

/-! ## 1. What events tell -/

namespace Trace

/-- What the events of a kind tell: their descriptions and metadata, in order. -/
def told (kind : EventKind) (events : List Event) : List (String × List (String × String)) :=
  (events.filter (·.kind = kind)).map fun event => (event.description, event.metadata)

theorem told_append (kind : EventKind) (front back : List Event) :
    told kind (front ++ back) = told kind front ++ told kind back := by
  rw [told, List.filter_append, List.map_append, ← told, ← told]

theorem told_singleton (kind : EventKind) (event : Event) :
    told kind [event] =
      if event.kind = kind then [(event.description, event.metadata)] else [] := by
  by_cases same : event.kind = kind <;> simp [told, same]

/-- What entries tell, in whatever phase they are logged. -/
def toldBy (kind : EventKind) (entries : List Entry) : List (String × List (String × String)) :=
  told kind (entries.map (·.event none))

theorem toldBy_append (kind : EventKind) (front back : List Entry) :
    toldBy kind (front ++ back) = toldBy kind front ++ toldBy kind back := by
  rw [toldBy, List.map_append, told_append, ← toldBy, ← toldBy]

theorem told_map_event (kind : EventKind) (phase : Option Nat) (entries : List Entry) :
    told kind (entries.map (·.event phase)) = toldBy kind entries := by
  induction entries with
  | nil => rfl
  | cons entry rest ih =>
    have first : told kind [entry.event phase] = toldBy kind [entry] := by
      rw [toldBy, List.map_singleton, told_singleton, told_singleton]
      cases entry <;> rfl
    have joined := toldBy_append kind [entry] rest
    rw [List.map_cons, ← List.singleton_append, told_append, ih, first, ← joined,
      List.singleton_append]

variable {kind : EventKind}

/-- Besides its start and end, a phase tells what is logged in it. -/
theorem told_events (notStart : kind ≠ .phaseStart) (notEnd : kind ≠ .phaseEnd) (start : Nat)
    (phase : Phase) : told kind (phase.events start) = toldBy kind phase.entries := by
  rw [Phase.events, ← List.singleton_append, told_append, told_append, told_map_event,
    told_singleton, told_singleton, if_neg notStart.symm, if_neg notEnd.symm, List.nil_append,
    List.append_nil]

theorem told_eventsOfRow (notStart : kind ≠ .phaseStart) (notEnd : kind ≠ .phaseEnd) (start : Nat)
    (phases : List Phase) :
    told kind (eventsOfRow start phases) = toldBy kind (phases.flatMap (·.entries)) := by
  induction phases generalizing start with
  | nil => rfl
  | cons phase rest ih =>
    rw [eventsOfRow, told_append, told_events notStart notEnd, ih, List.flatMap_cons, toldBy_append]

end Trace

open Trace (told toldBy toldBy_append)

/-! ## 2. What remarks tell -/

/-- What the trace tells of a finding. -/
def Diagnostic.told (diagnostic : Diagnostic) : String × List (String × String) :=
  (diagnostic.id ++ ": " ++ diagnostic.message,
    [("id", diagnostic.id), ("location", diagnostic.location.text)])

/-- Remarks tell what each of them tells. -/
theorem toldBy_entriesOf (kind : EventKind) (remarks : List Remark) :
    toldBy kind (entriesOf remarks) =
      remarks.flatMap fun remark => toldBy kind (entriesOf [remark]) := by
  induction remarks with
  | nil => rfl
  | cons remark rest ih =>
    rw [← List.singleton_append, entriesOf_append, toldBy_append, ih, List.singleton_append,
      List.flatMap_cons]

/-- The findings among remarks are told. -/
theorem toldBy_diagnostic (remarks : List Remark) :
    toldBy .diagnostic (entriesOf remarks) = (findings remarks).map Diagnostic.told := by
  rw [toldBy_entriesOf, findings, List.filterMap_eq_flatMap_toList, List.map_flatMap]
  refine List.flatMap_congr fun remark _ => ?_
  cases remark <;> rfl

/-- No remark is about a selection. -/
theorem toldBy_candidate (remarks : List Remark) : toldBy .candidate (entriesOf remarks) = [] := by
  rw [toldBy_entriesOf, List.flatMap_eq_nil_iff]
  intro remark _
  cases remark <;> rfl

/-- Observations tell of no candidate that is dropped. -/
theorem toldBy_skipped_of_observations {remarks : List Remark}
    (observations : ∀ remark ∈ remarks, remark.isObservation = true) :
    toldBy .skipped (entriesOf remarks) = [] := by
  rw [toldBy_entriesOf, List.flatMap_eq_nil_iff]
  intro remark made
  cases remark with
  | inspected | reported | logged => rfl
  | skipped name reason => exact absurd (observations _ made) Bool.false_ne_true

/-! ## 3. Skipped classes -/

variable {settings : Settings} {compilation : Compilation}

/-- Whether the trace tells of a class that it is skipped, and for what reason: it cannot be
written. -/
def TellsSkip (settings : Settings) (compilation : Compilation)
    (told : String × List (String × String)) (type : DeclaredType) : Prop :=
  ∃ cause, Dispatch.emit (infoOf compilation type) (parametersOf settings compilation type) =
      .error cause ∧
    told = ("Skipped '" ++ type.qualifiedName ++ "'", [("reason", cause.message)])

theorem toldBy_skipped_openingRemarks (type : DeclaredType) :
    toldBy .skipped (entriesOf (Dispatch.openingRemarks settings compilation type)) = [] := by
  rw [toldBy_entriesOf, List.flatMap_eq_nil_iff]
  unfold Dispatch.openingRemarks
  refine List.forall_mem_append.mpr ⟨List.forall_mem_append.mpr ⟨?_, ?_⟩, ?_⟩
  · exact List.forall_mem_map.mpr fun _ _ => rfl
  · exact List.forall_mem_singleton.mpr rfl
  · exact List.forall_mem_map.mpr fun _ _ => rfl

/-- The remarks about classes tell of the skipped ones, in order: those that get no artifacts. -/
theorem forall₂_skips (types : List DeclaredType) :
    List.Forall₂ (TellsSkip settings compilation)
      (toldBy .skipped (entriesOf (types.flatMap (remarksOf settings compilation))))
      (types.filter fun type => !isEmitted settings compilation type) := by
  induction types with
  | nil => exact .nil
  | cons type rest ih =>
    rw [List.flatMap_cons, entriesOf_append, toldBy_append, List.filter_cons]
    cases emitted : Dispatch.emit (infoOf compilation type)
        (parametersOf settings compilation type) with
    | ok pair =>
      have written : isEmitted settings compilation type = true := by
        rw [isEmitted, Dispatch.ofType_of_emit_ok emitted]
        rfl
      rw [written, if_neg (by simp), remarksOf, Dispatch.ofType_of_emit_ok emitted,
        toldBy_skipped_openingRemarks, List.nil_append]
      exact ih
    | error cause =>
      rw [Dispatch.isEmitted_of_emit_error emitted, if_pos (by simp), remarksOf,
        Dispatch.ofType_of_emit_error emitted, entriesOf_append, toldBy_append,
        toldBy_skipped_openingRemarks, List.nil_append]
      exact .cons ⟨cause, emitted, rfl⟩ ih

/-- The artifacts that are meant for a candidate class are there exactly if it can be written. -/
theorem mem_names_allArtifacts_iff (on : settings.generateDispatch = true) {type : DeclaredType}
    (candidate : type ∈ (Candidates.collect settings compilation).classes) {name : String}
    (meant : name ∈ namesOf type) :
    name ∈ (allArtifacts settings compilation).map (·.name) ↔
      isEmitted settings compilation type = true := by
  rw [allArtifacts, if_pos on, dispatchArtifacts, List.map_cons, List.mem_cons]
  constructor
  · rintro (rfl | present)
    · exact absurd meant (Dispatch.markerName_not_mem_namesOf type)
    · -- The artifact is that of some candidate, and no two candidates share a name.
      obtain ⟨artifact, added, rfl⟩ := List.mem_map.mp present
      obtain ⟨other, candidate', made⟩ := List.mem_flatMap.mp added
      have meant' := (Dispatch.map_name_artifactsOf settings compilation other).subset
        (List.mem_map_of_mem made)
      obtain rfl := List.inj_on_of_nodup_map (nodup_metadataName_collect settings compilation)
        candidate candidate' (Dispatch.metadataName_eq_of_mem_namesOf meant meant')
      unfold artifactsOf at made
      unfold isEmitted
      cases written : (Dispatch.ClassOutcome.ofType settings compilation type).artifacts with
      | none => simp [written] at made
      | some pair => rfl
  · intro written
    right
    have names := Dispatch.map_name_artifactsOf settings compilation type
    have two : ((artifactsOf settings compilation type).map (·.name)).length =
        (namesOf type).length := by
      rw [List.length_map, Dispatch.length_artifactsOf, if_pos written]
      rfl
    rw [← names.eq_of_length two] at meant
    rw [List.map_flatMap]
    exact List.mem_flatMap.mpr ⟨type, candidate, meant⟩

/-- There are two artifacts for each candidate class that can be written, and one more. -/
theorem length_allArtifacts (on : settings.generateDispatch = true) :
    let classes := (Candidates.collect settings compilation).classes
    (allArtifacts settings compilation).length +
        2 * (classes.filter fun type => !isEmitted settings compilation type).length =
      2 * classes.length + 1 := by
  intro classes
  have pairs : (classes.flatMap (artifactsOf settings compilation)).length =
      2 * classes.countP (isEmitted settings compilation) :=
    Dispatch.length_flatMap_artifactsOf _
  have parts : classes.length = classes.countP (isEmitted settings compilation) +
      (classes.filter fun type => !isEmitted settings compilation type).length := by
    simpa [List.countP_eq_length_filter] using
      List.length_eq_countP_add_countP (isEmitted settings compilation)
  rw [allArtifacts, if_pos on, dispatchArtifacts, List.length_cons, pairs]
  omega

/-! ## 4. A run -/

/-- Whether a class has none of the artifacts that are meant for it. -/
def Generation.lacks (generation : Generation) (type : DeclaredType) : Bool :=
  (namesOf type).all fun name => (generation.artifact? name).isNone

theorem lacks_eq (on : settings.generateDispatch = true) {generation : Generation}
    (artifacts : generation.artifacts = allArtifacts settings compilation) {type : DeclaredType}
    (candidate : type ∈ (Candidates.collect settings compilation).classes) :
    generation.lacks type = !isEmitted settings compilation type := by
  have each : ∀ name ∈ namesOf type,
      (generation.artifact? name).isNone = !isEmitted settings compilation type := by
    intro name meant
    have there := mem_names_allArtifacts_iff on candidate meant
    rw [← artifacts] at there
    rw [Bool.eq_iff_iff, Bool.not_eq_true', ← Bool.not_eq_true, ← there]
    simp [Generation.artifact?]
  rw [Generation.lacks, namesOf]
  simp only [List.all_cons, List.all_nil, Bool.and_true]
  rw [each _ (by simp [namesOf]), each _ (by simp [namesOf]), Bool.and_self]

theorem toldBy_map_candidate {α : Type} (kind : String) (nameOf : α → String) (items : List α) :
    toldBy .candidate (items.map fun item => .candidate kind (nameOf item)) =
      items.map fun item => ("Selected " ++ kind ++ " '" ++ nameOf item ++ "'",
        [("kind", kind), ("name", nameOf item)]) := by
  induction items with
  | nil => rfl
  | cons item rest ih => exact congrArg (List.cons _) ih

theorem toldBy_candidate_collectionEntries (candidates : Candidates) :
    toldBy .candidate (collectionEntries candidates) =
      candidates.classes.map (fun type =>
        ("Selected class '" ++ type.qualifiedName ++ "'",
          [("kind", "class"), ("name", type.qualifiedName)])) ++
      candidates.routines.map (fun routine =>
        ("Selected render routine '" ++ routine.name ++ "'",
          [("kind", "render routine"), ("name", routine.name)])) := by
  rw [collectionEntries, toldBy_append, toldBy_map_candidate, toldBy_map_candidate]
  rfl

theorem toldBy_collectionEntries (kind : EventKind) (other : kind ≠ .candidate)
    (candidates : Candidates) : toldBy kind (collectionEntries candidates) = [] := by
  simp [toldBy, told, collectionEntries, Trace.Entry.event, other.symm]

/-- What the trace of a run tells, phase by phase. -/
theorem told_eventsOfRow_phasesOf (settings : Settings) (compilation : Compilation)
    (kind : EventKind) (notStart : kind ≠ .phaseStart) (notEnd : kind ≠ .phaseEnd) :
    let candidates := Candidates.collect settings compilation
    told kind (Trace.eventsOfRow 0 (phasesOf settings compilation)) =
      toldBy kind (collectionEntries candidates) ++
      ((if settings.generateDispatch then
          toldBy kind (entriesOf (candidates.classes.flatMap (remarksOf settings compilation)))
        else []) ++
      (if settings.analyzeKeys then
          toldBy kind (entriesOf (LoopKeys.analyze ⟨settings, compilation⟩ candidates.routines).2)
        else [])) := by
  intro candidates
  rw [Trace.told_eventsOfRow notStart notEnd, phasesOf, List.flatMap_cons, List.flatMap_append,
    toldBy_append, toldBy_append]
  congr 2
  · split
    · rw [List.flatMap_singleton]
    · rfl
  · split
    · rw [List.flatMap_singleton]
    · rfl

theorem told_diagnostic_phasesOf (settings : Settings) (compilation : Compilation) :
    told .diagnostic (Trace.eventsOfRow 0 (phasesOf settings compilation)) =
      (allFindings settings compilation).map Diagnostic.told := by
  rw [told_eventsOfRow_phasesOf _ _ .diagnostic (by decide) (by decide),
    toldBy_collectionEntries .diagnostic (by decide), List.nil_append, toldBy_diagnostic,
    toldBy_diagnostic, findings_flatMap_remarksOf, allFindings, List.map_append]
  congr 1
  · split <;> rfl
  · split <;> rfl

/-- Candidates are told of in the first phase only. -/
theorem told_candidate_phasesOf (settings : Settings) (compilation : Compilation) :
    told .candidate (Trace.eventsOfRow 0 (phasesOf settings compilation)) =
      toldBy .candidate (collectionEntries (Candidates.collect settings compilation)) := by
  rw [told_eventsOfRow_phasesOf _ _ .candidate (by decide) (by decide), toldBy_candidate,
    toldBy_candidate, ite_self, ite_self]
  exact List.append_nil _

/-- Skipped candidates are told of in dispatch generation only. -/
theorem told_skipped_phasesOf (on : settings.generateDispatch = true) :
    told .skipped (Trace.eventsOfRow 0 (phasesOf settings compilation)) =
      toldBy .skipped (entriesOf ((Candidates.collect settings compilation).classes.flatMap
        (remarksOf settings compilation))) := by
  rw [told_eventsOfRow_phasesOf _ _ .skipped (by decide) (by decide),
    toldBy_collectionEntries .skipped (by decide), if_pos on,
    toldBy_skipped_of_observations (LoopKeys.isObservation_of_mem_analyze _), ite_self]
  exact List.append_nil _

/-- **The trace tells what a run did.**  A run completes.  Its trace tells of its findings and of
its candidates, in order.  With dispatch generation, it tells of the candidate classes that lack
their artifacts, in order, that they are skipped and why; and there are two artifacts for each of
the others, and one more. -/
theorem run_told (settings : Settings) (snapshot : Snapshot) :
    let compilation := Compilation.ofSnapshot snapshot
    let candidates := Candidates.collect settings compilation
    ∃ generation, (run settings compilation).result = .ok generation ∧
      told .diagnostic generation.events = generation.diagnostics.map Diagnostic.told ∧
      told .candidate generation.events =
        candidates.classes.map (fun type =>
          ("Selected class '" ++ type.qualifiedName ++ "'",
            [("kind", "class"), ("name", type.qualifiedName)])) ++
        candidates.routines.map (fun routine =>
          ("Selected render routine '" ++ routine.name ++ "'",
            [("kind", "render routine"), ("name", routine.name)])) ∧
      (settings.generateDispatch = true →
        List.Forall₂ (TellsSkip settings compilation) (told .skipped generation.events)
          (candidates.classes.filter generation.lacks) ∧
        (generation.artifacts.length : ℤ) =
          2 * candidates.classes.length - 2 * (told .skipped generation.events).length + 1) := by
  intro compilation candidates
  obtain ⟨generation, completed, found, artifacts, -⟩ := run_eq settings compilation
  obtain ⟨generation', completed', -, events⟩ := run_events settings compilation
  obtain rfl : generation = generation' := Except.ok.inj (completed.symm.trans completed')
  refine ⟨generation, completed, ?findings, ?candidates, fun on => ?skips⟩
  case findings => rw [events, told_diagnostic_phasesOf, found]
  case candidates => rw [events, told_candidate_phasesOf, toldBy_candidate_collectionEntries]
  case skips =>
    have lacking : candidates.classes.filter generation.lacks =
        candidates.classes.filter fun type => !isEmitted settings compilation type :=
      List.filter_congr fun type candidate => lacks_eq on artifacts candidate
    have paired : List.Forall₂ (TellsSkip settings compilation) (told .skipped generation.events)
        (candidates.classes.filter generation.lacks) := by
      rw [lacking, events, told_skipped_phasesOf on]
      exact forall₂_skips _
    have count : generation.artifacts.length +
        2 * (candidates.classes.filter generation.lacks).length =
          2 * candidates.classes.length + 1 := by
      rw [lacking, artifacts]
      exact length_allArtifacts on
    refine ⟨paired, ?_⟩
    rw [paired.length_eq]
    omega

namespace Example

/-- A parameter that cannot be written for its type. -/
def unwritable : Snapshot.Property :=
  ⟨"Name", "int;", true, [⟨"Parameter", ""⟩], []⟩

theorem classes_unwritable :
    (Candidates.collect {} (.ofSnapshot (pageWith [unwritable]))).classes = [page [unwritable]] :=
  rfl

theorem parametersOf_unwritable :
    parametersOf {} (.ofSnapshot (pageWith [unwritable])) (page [unwritable]) =
      [⟨⟨unwritable, "Page"⟩, "Parameter"⟩] := by
  cbv

theorem isEmitted_unwritable :
    isEmitted {} (.ofSnapshot (pageWith [unwritable])) (page [unwritable]) = false := by
  cases emitted : Dispatch.emit (infoOf (.ofSnapshot (pageWith [unwritable])) (page [unwritable]))
      (parametersOf {} (.ofSnapshot (pageWith [unwritable])) (page [unwritable])) with
  | error cause => exact Dispatch.isEmitted_of_emit_error emitted
  | ok pair =>
    obtain ⟨-, each, -⟩ := Dispatch.emit_eq_ok_iff.mp emitted
    rw [parametersOf_unwritable] at each
    exact absurd (each _ List.mem_cons_self).2.2 (by decide)

end Example

/-- Of a class that cannot be written the trace tells that it is selected and that it is skipped,
and the artifact of the markers is the only one. -/
theorem run_told_unwritable :
    ({} : Settings).generateDispatch = true ∧
      ∃ generation,
        (run {} (.ofSnapshot (Example.pageWith [Example.unwritable]))).result = .ok generation ∧
        told .candidate generation.events =
          [("Selected class 'Page'", [("kind", "class"), ("name", "Page")])] ∧
        (∃ reason, told .skipped generation.events =
          [("Skipped 'Page'", [("reason", reason)])]) ∧
        generation.artifacts.length = 1 := by
  refine ⟨rfl, ?_⟩
  obtain ⟨generation, completed, -, selected, skips⟩ :=
    run_told {} (Example.pageWith [Example.unwritable])
  obtain ⟨generation', completed', -, artifacts, -⟩ :=
    run_eq {} (.ofSnapshot (Example.pageWith [Example.unwritable]))
  obtain rfl : generation = generation' := Except.ok.inj (completed.symm.trans completed')
  obtain ⟨paired, count⟩ := skips rfl
  have lacks : generation.lacks (Example.page [Example.unwritable]) = true := by
    rw [lacks_eq rfl artifacts (by rw [Example.classes_unwritable]; exact List.mem_cons_self),
      Example.isEmitted_unwritable]
    rfl
  rw [Example.classes_unwritable] at paired count selected
  rw [List.filter_cons, lacks, if_pos rfl, List.filter_nil] at paired
  obtain ⟨told, rest, ⟨cause, -, rfl⟩, nothing, skipped⟩ := List.forall₂_cons_right_iff.mp paired
  rw [List.forall₂_nil_right_iff.mp nothing] at skipped
  refine ⟨generation, completed, selected, ⟨_, skipped⟩, ?_⟩
  rw [skipped] at count
  simp only [List.length_singleton] at count
  omega

end ComponentPasses

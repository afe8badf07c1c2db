import ComponentPasses.Generation
import ComponentPasses.Proofs.Candidates
import ComponentPasses.Proofs.Conflict
import ComponentPasses.Proofs.Dispatch.Generation
import ComponentPasses.Proofs.LoopKeys.Order

/-!
# What a run yields

A run always completes.  Its findings are those about the conflicts of each candidate class, in
order, and then those of the loop analysis, each part as far as the settings ask for it
(`run_eq`).  Only the first are errors.  So a run fails exactly where some candidate class has two
parameters that agree up to case and one of them is declared somewhere (`run_fails_iff`).

The condition on the place cannot be dropped: conflicts are reported at the places the parameters
are declared at, and a conflict that has none goes unseen (`run_overlooks_conflict`).
-/

namespace ComponentPasses

open Snapshot (Compilation DeclaredType)
open Dispatch (parametersOf remarksOf artifactsOf)

variable {settings : Settings} {compilation : Compilation}

/-! ## 1. The phases -/

/-- The findings about the conflicts of classes, class by class. -/
def conflictsAmong (settings : Settings) (compilation : Compilation) (types : List DeclaredType) :
    List Diagnostic :=
  types.flatMap fun type => conflictDiagnostics (parametersOf settings compilation type)

theorem findings_flatMap_remarksOf (types : List DeclaredType) :
    findings (types.flatMap (remarksOf settings compilation)) =
      conflictsAmong settings compilation types := by
  induction types with
  | nil => rfl
  | cons type rest ih =>
    rw [List.flatMap_cons, findings_append, ih, Dispatch.findings_remarksOf]
    rfl

/-- The artifacts that dispatch generation adds: the declarations of the markers, then those of each
class. -/
def dispatchArtifacts (settings : Settings) (compilation : Compilation)
    (types : List DeclaredType) : List Artifact :=
  Dispatch.markerArtifact :: types.flatMap (artifactsOf settings compilation)

/-- The phase that generates completes, and within it the record is extended by the remarks about
each class and the artifacts. -/
theorem dispatchPhase_eq (record : Record) (empty : record.artifacts.names = []) :
    let candidates := Candidates.collect settings compilation
    dispatchPhase settings compilation candidates record =
      (((record.startPhase "Dispatch Generation"
          (toString candidates.classes.length ++ " candidate classes")).extend
        (candidates.classes.flatMap (remarksOf settings compilation))
        (dispatchArtifacts settings compilation candidates.classes)).endPhase, .ok ()) := by
  intro candidates
  simp only [dispatchPhase]
  set started := record.startPhase "Dispatch Generation"
    (toString candidates.classes.length ++ " candidate classes")
  have nothing : started.artifacts.names = [] := empty
  have free : ∀ name ∈ candidates.classes.flatMap Dispatch.namesOf,
      name ∉ (started.extend [] [Dispatch.markerArtifact]).artifacts.names := by
    intro name meant
    obtain ⟨type, -, meant⟩ := List.mem_flatMap.mp meant
    rw [Record.names_extend, nothing, List.nil_append, List.map_singleton, List.mem_singleton]
    rintro rfl
    exact Dispatch.markerName_not_mem_namesOf type meant
  have generated := Dispatch.generateAll_eq settings compilation
    (nodup_metadataName_collect settings compilation) free
  rw [Record.add_of_fresh (by rw [nothing]; exact List.not_mem_nil)]
  dsimp only
  rw [generated, Record.extend_extend]
  rfl

/-- The phase that analyses the loops extends the record by the remarks of the analysis. -/
theorem keyPhase_eq (candidates : Candidates) (record : Record) :
    keyPhase settings compilation candidates record =
      ((record.startPhase "Key Analysis"
          (toString candidates.routines.length ++ " render routines")).extend
        (LoopKeys.analyze ⟨settings, compilation⟩ candidates.routines).2 []).endPhase := by
  rw [← Record.noteAll_eq_extend]
  rfl

/-! ## 2. The run -/

/-- What a run finds: the conflicts of each candidate class and the loops without a key, as far as
the settings ask for them. -/
def allFindings (settings : Settings) (compilation : Compilation) : List Diagnostic :=
  let candidates := Candidates.collect settings compilation
  (if settings.generateDispatch then conflictsAmong settings compilation candidates.classes
    else []) ++
  (if settings.analyzeKeys then
      findings (LoopKeys.analyze ⟨settings, compilation⟩ candidates.routines).2
    else [])

/-- The artifacts of a run. -/
def allArtifacts (settings : Settings) (compilation : Compilation) : List Artifact :=
  if settings.generateDispatch then
    dispatchArtifacts settings compilation (Candidates.collect settings compilation).classes
  else []

/-- The log of a run: what dispatch generation logs about each candidate class, and then what the
loop analysis logs. -/
def allLogRecords (settings : Settings) (compilation : Compilation) : List Console.LogRecord :=
  let candidates := Candidates.collect settings compilation
  (if settings.generateDispatch then
      logRecords (candidates.classes.flatMap (remarksOf settings compilation))
    else []) ++
  (if settings.analyzeKeys then
      logRecords (LoopKeys.analyze ⟨settings, compilation⟩ candidates.routines).2
    else [])

theorem runPhases_eq (settings : Settings) (compilation : Compilation) :
    ∃ record, runPhases settings compilation = (record, .ok ()) ∧
      record.diagnostics = allFindings settings compilation ∧
      record.artifacts.artifacts = allArtifacts settings compilation ∧
      record.journal = allLogRecords settings compilation := by
  set candidates := Candidates.collect settings compilation with collected
  obtain ⟨dispatched, outcome, found, added, logged⟩ : ∃ dispatched,
      (if settings.generateDispatch then
          dispatchPhase settings compilation candidates (collectionPhase candidates {})
        else (collectionPhase candidates {}, .ok ())) = (dispatched, .ok ()) ∧
      dispatched.diagnostics = (if settings.generateDispatch then
        conflictsAmong settings compilation candidates.classes else []) ∧
      dispatched.artifacts.artifacts = allArtifacts settings compilation ∧
      dispatched.journal = (if settings.generateDispatch then
        logRecords (candidates.classes.flatMap (remarksOf settings compilation)) else []) := by
    by_cases on : settings.generateDispatch = true
    · rw [if_pos on, if_pos on, if_pos on, allArtifacts, if_pos on, collected,
        dispatchPhase_eq _ rfl]
      refine ⟨_, rfl, ?_, rfl, ?_⟩
      · exact (Record.diagnostics_extend _ _
          (dispatchArtifacts settings compilation candidates.classes)).trans
          (findings_flatMap_remarksOf _)
      · exact Record.journal_extend _ _
          (dispatchArtifacts settings compilation candidates.classes)
    · rw [if_neg on, if_neg on, if_neg on, allArtifacts, if_neg on]
      exact ⟨_, rfl, rfl, rfl, rfl⟩
  simp only [runPhases, ← collected, outcome]
  by_cases on : settings.analyzeKeys = true
  · rw [if_pos on, keyPhase_eq]
    refine ⟨_, rfl, ?_, ?_, ?_⟩
    · rw [allFindings, if_pos on, ← collected, ← found]
      exact Record.diagnostics_extend _ _ []
    · exact (List.append_nil _).trans added
    · rw [allLogRecords, if_pos on, ← collected, ← logged]
      exact Record.journal_extend _ _ []
  · rw [if_neg on]
    refine ⟨_, rfl, ?_, added, ?_⟩
    · rw [allFindings, if_neg on, ← collected, ← found, List.append_nil]
    · rw [allLogRecords, if_neg on, ← collected, ← logged, List.append_nil]

/-- A run completes, with all its findings and artifacts, and succeeds if none is an error. -/
theorem run_eq (settings : Settings) (compilation : Compilation) :
    ∃ generation, (run settings compilation).result = .ok generation ∧
      generation.diagnostics = allFindings settings compilation ∧
      generation.artifacts = allArtifacts settings compilation ∧
      generation.success = !(allFindings settings compilation).any (·.isError) := by
  obtain ⟨record, phases, found, added, -⟩ := runPhases_eq settings compilation
  refine ⟨.ofRecord record, ?_, found, added, ?_⟩
  · simp only [run, phases]
    rfl
  · rw [← found]
    rfl

/-- The errors of a run are the findings about conflicts. -/
theorem any_isError_allFindings (on : settings.generateDispatch = true) :
    (allFindings settings compilation).any (·.isError) = true ↔
      ∃ type ∈ (Candidates.collect settings compilation).classes,
        conflictDiagnostics (parametersOf settings compilation type) ≠ [] := by
  rw [allFindings, if_pos on, List.any_append, Bool.or_eq_true]
  constructor
  · rintro (conflict | loop)
    · obtain ⟨diagnostic, found, -⟩ := List.any_eq_true.mp conflict
      obtain ⟨type, candidate, found⟩ := List.mem_flatMap.mp found
      exact ⟨type, candidate, List.ne_nil_of_mem found⟩
    · obtain ⟨diagnostic, found, error⟩ := List.any_eq_true.mp loop
      split at found
      · obtain ⟨keyword, rfl⟩ := LoopKeys.keyless_of_mem_findings found
        have warning : (Diagnostic.keylessLoop keyword).isError = false := rfl
        exact absurd error (by rw [warning]; decide)
      · exact absurd found List.not_mem_nil
  · rintro ⟨type, candidate, conflict⟩
    obtain ⟨diagnostic, found⟩ := List.exists_mem_of_ne_nil _ conflict
    exact .inl (List.any_eq_true.mpr ⟨diagnostic, List.mem_flatMap.mpr ⟨type, candidate, found⟩,
      isError_of_mem_conflictDiagnostics found⟩)

/-! ## 3. The gate -/

/-- Some candidate class has two parameters at different positions whose names agree up to case. -/
def HasConflict (settings : Settings) (compilation : Compilation) : Prop :=
  ∃ type ∈ (Candidates.collect settings compilation).classes, ∃ (i j : Nat) (p q : Parameter),
    i ≠ j ∧ (parametersOf settings compilation type)[i]? = some p ∧
      (parametersOf settings compilation type)[j]? = some q ∧ p.loweredName = q.loweredName

/-- Some candidate class has two parameters at different positions whose names agree up to case, and
the first of them is declared somewhere. -/
def HasPlacedConflict (settings : Settings) (compilation : Compilation) : Prop :=
  ∃ type ∈ (Candidates.collect settings compilation).classes, ∃ (i j : Nat) (p q : Parameter),
    i ≠ j ∧ (parametersOf settings compilation type)[i]? = some p ∧
      (parametersOf settings compilation type)[j]? = some q ∧ p.loweredName = q.loweredName ∧
      p.locations ≠ []

theorem HasPlacedConflict.hasConflict (h : HasPlacedConflict settings compilation) :
    HasConflict settings compilation := by
  obtain ⟨type, candidate, i, j, p, q, apart, first, second, same, -⟩ := h
  exact ⟨type, candidate, i, j, p, q, apart, first, second, same⟩

/-- A run that generates dispatchers completes, and it fails exactly if there is a conflict that has
a place.  So failure tells whether there is a conflict exactly where some conflict has a place as
soon as there is one. -/
theorem run_fails_iff (settings : Settings) (snapshot : Snapshot)
    (on : settings.generateDispatch = true) :
    let compilation := Compilation.ofSnapshot snapshot
    ∃ generation, (run settings compilation).result = .ok generation ∧
      (generation.success = false ↔ HasPlacedConflict settings compilation) ∧
      ((generation.success = false ↔ HasConflict settings compilation) ↔
        (HasConflict settings compilation → HasPlacedConflict settings compilation)) := by
  intro compilation
  obtain ⟨generation, completed, -, -, success⟩ := run_eq settings compilation
  have fails : generation.success = false ↔ HasPlacedConflict settings compilation := by
    rw [success, Bool.not_eq_false', any_isError_allFindings on]
    exact exists_congr fun type => and_congr_right fun _ => conflictDiagnostics_ne_nil_iff _
  refine ⟨generation, completed, fails, ?_⟩
  rw [fails]
  exact ⟨fun same => same.mpr, fun placed => ⟨HasPlacedConflict.hasConflict, placed⟩⟩

namespace Example

/-- A parameter of type `int` with the given places. -/
def parameter (name : String) (locations : List Snapshot.Location) : Snapshot.Property :=
  ⟨name, "int", true, [⟨"Parameter", ""⟩], locations⟩

/-- A class that opts in. -/
def page (properties : List Snapshot.Property) : DeclaredType where
  name := "Page"
  attributes := [⟨inclusionMarker, markerNamespace⟩]
  properties := properties

/-- A snapshot of that class. -/
def pageWith (properties : List Snapshot.Property) : Snapshot where
  types := [page properties]
  files := [{ members := [.classDeclaration "Page" (some "Page") [inclusionMarker] [] {}] }]

/-- Two parameters that agree up to case, neither of which has a place. -/
def unplaced : Snapshot := pageWith [parameter "Name" [], parameter "name" []]

/-- The same two parameters, one of which has a place. -/
def placed : Snapshot := pageWith [parameter "Name" [{ line := 3 }], parameter "name" []]

theorem classes_unplaced : (Candidates.collect {} (.ofSnapshot unplaced)).classes =
    [page [parameter "Name" [], parameter "name" []]] := rfl

theorem classes_placed : (Candidates.collect {} (.ofSnapshot placed)).classes =
    [page [parameter "Name" [{ line := 3 }], parameter "name" []]] := rfl

/-- What is extracted for a parameter of that class. -/
def inPage (name : String) (locations : List Snapshot.Location) : Parameter :=
  ⟨⟨parameter name locations, "Page"⟩, "Parameter"⟩

theorem parametersOf_page (first second : List Snapshot.Location) :
    parametersOf {} (.ofSnapshot (pageWith [parameter "Name" first, parameter "name" second]))
        (page [parameter "Name" first, parameter "name" second]) =
      [inPage "Name" first, inPage "name" second] := by
  cbv

theorem hasConflict_unplaced : HasConflict {} (.ofSnapshot unplaced) := by
  refine ⟨_, by rw [classes_unplaced]; exact List.mem_singleton_self _, 0, 1,
    inPage "Name" [], inPage "name" [], by decide, ?_, ?_, ?_⟩
  · rw [unplaced, parametersOf_page]; rfl
  · rw [unplaced, parametersOf_page]; rfl
  · decide +kernel

theorem hasPlacedConflict_placed : HasPlacedConflict {} (.ofSnapshot placed) := by
  refine ⟨_, by rw [classes_placed]; exact List.mem_singleton_self _, 0, 1,
    inPage "Name" [{ line := 3 }], inPage "name" [], by decide, ?_, ?_, ?_, by decide⟩
  · rw [placed, parametersOf_page]; rfl
  · rw [placed, parametersOf_page]; rfl
  · decide +kernel

/-- Nothing is found in `unplaced`. -/
theorem allFindings_unplaced : allFindings {} (.ofSnapshot unplaced) = [] := by
  have routines : (Candidates.collect {} (.ofSnapshot unplaced)).routines = [] := rfl
  have none : conflictDiagnostics (parametersOf {} (.ofSnapshot unplaced)
      (page [parameter "Name" [], parameter "name" []])) = [] := by
    by_contra found
    obtain ⟨i, -, p, -, -, present, -, -, located⟩ := (conflictDiagnostics_ne_nil_iff _).mp found
    rw [unplaced, parametersOf_page] at present
    rcases List.mem_pair.mp (List.mem_of_getElem? present) with rfl | rfl
    · exact located rfl
    · exact located rfl
  rw [allFindings, classes_unplaced, routines, conflictsAmong, List.flatMap_singleton, none]
  rfl

end Example

/-- A conflict whose parameters have no place is overlooked: the run succeeds. -/
theorem run_overlooks_conflict :
    HasConflict {} (.ofSnapshot Example.unplaced) ∧
      (run {} (.ofSnapshot Example.unplaced)).result.map (·.success) = .ok true := by
  refine ⟨Example.hasConflict_unplaced, ?_⟩
  obtain ⟨generation, completed, -, -, success⟩ := run_eq {} (.ofSnapshot Example.unplaced)
  rw [completed, Except.map, success, Example.allFindings_unplaced]
  rfl

/-- One place is enough for the run to fail. -/
theorem run_fails_placed :
    ({} : Settings).generateDispatch = true ∧
      ∃ generation, (run {} (.ofSnapshot Example.placed)).result = .ok generation ∧
        generation.success = false := by
  refine ⟨rfl, ?_⟩
  obtain ⟨generation, completed, fails, -⟩ := run_fails_iff {} Example.placed rfl
  exact ⟨generation, completed, fails.mpr Example.hasPlacedConflict_placed⟩

end ComponentPasses

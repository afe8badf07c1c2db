import ComponentPasses.Proofs.Conflict
import ComponentPasses.Proofs.Dispatch.Generation

/-!
# Classes do not disturb each other

Generation takes classes one after the other and notes everything in the same record.  Still, what a
run leaves is what each class leaves **alone**, joined in order (`Record.Joins`), as long as the
classes have metadata names of their own.  A class that cannot be written has no artifact, keeps its
findings and is warned about once; without it the run leaves the artifacts and the other findings as
they are.

Whether a class can be written is a matter of each of its parameters for itself, and so never of two
parameters that are in conflict (`emits_iff_each`).

All of it rests on `generateAll_eq`: a run extends the record by the remarks about each class and
its artifacts, and neither depends on what the record holds.
-/

namespace ComponentPasses

/-- The record holds what the parts hold, one after the other. -/
structure Record.Joins (parts : List Record) (record : Record) : Prop where
  artifacts : record.artifacts.artifacts = parts.flatMap (·.artifacts.artifacts)
  diagnostics : record.diagnostics = parts.flatMap (·.diagnostics)
  journal : record.journal = parts.flatMap (·.journal)
  events : record.trace.events = parts.flatMap (·.trace.events)

namespace Dispatch

open Snapshot (Compilation DeclaredType)

variable {settings : Settings} {compilation : Compilation}

/-- On an empty record no name is taken. -/
theorem generateAll_empty (settings : Settings) (compilation : Compilation)
    {types : List DeclaredType} (distinct : (types.map (·.metadataName)).Nodup) :
    generateAll settings compilation {} types =
      (({} : Record).extend (types.flatMap (remarksOf settings compilation))
        (types.flatMap (artifactsOf settings compilation)),
      .ok (types.countP (isEmitted settings compilation))) :=
  generateAll_eq settings compilation distinct fun _ _ => List.not_mem_nil

/-! ## 1. One class alone -/

/-- What generation for a single class leaves on an empty record. -/
def alone (settings : Settings) (compilation : Compilation) (type : DeclaredType) : Record :=
  (generateAll settings compilation {} [type]).1

theorem alone_eq (type : DeclaredType) :
    alone settings compilation type =
      ({} : Record).extend (remarksOf settings compilation type)
        (artifactsOf settings compilation type) := by
  have distinct : ([type].map (·.metadataName)).Nodup := List.nodup_singleton _
  rw [alone, generateAll_empty settings compilation distinct, List.flatMap_singleton,
    List.flatMap_singleton]

/-- The findings about a class are the same whether or not it can be written. -/
theorem diagnostics_alone (type : DeclaredType) :
    (alone settings compilation type).diagnostics =
      conflictDiagnostics (parametersOf settings compilation type) := by
  rw [alone_eq, Record.diagnostics_extend, findings_remarksOf]
  rfl

/-- A class that can be written adds both artifacts and no warning that it is skipped. -/
theorem alone_of_emit_ok {type : DeclaredType} {pair : Artifact × Artifact}
    (emitted : emit (infoOf compilation type) (parametersOf settings compilation type) = .ok pair) :
    (alone settings compilation type).artifacts.artifacts = [pair.1, pair.2] ∧
      (alone settings compilation type).journal =
        (Hierarchy.ofType compilation type).warnings := by
  rw [alone_eq, Record.journal_extend, remarksOf, artifactsOf, ofType_of_emit_ok emitted,
    logRecords_openingRemarks]
  exact ⟨rfl, rfl⟩

/-- A class that cannot be written adds no artifact and one warning that it is skipped. -/
theorem alone_of_emit_error {type : DeclaredType} {cause : Source.EmitError}
    (refused : emit (infoOf compilation type) (parametersOf settings compilation type) =
      .error cause) :
    (alone settings compilation type).artifacts.artifacts = [] ∧
      (alone settings compilation type).journal =
        (Hierarchy.ofType compilation type).warnings ++
          [skipWarning (infoOf compilation type).qualifiedName cause.message] := by
  rw [alone_eq, Record.journal_extend, remarksOf, artifactsOf, ofType_of_emit_error refused,
    logRecords_append, logRecords_openingRemarks]
  exact ⟨rfl, rfl⟩

/-! ## 2. What decides whether a class can be written -/

theorem emits_iff (info : ClassInfo) (parameters : List Parameter) :
    (∃ pair, emit info parameters = .ok pair) ↔
      info.Writable ∧ ∀ parameter ∈ parameters, Writable parameter := by
  simp only [emit_eq_ok_iff, exists_and_left, exists_eq, and_true]

/-- Parameters can be written together exactly if each of them can be written alone. -/
theorem emits_iff_each (info : ClassInfo) (parameters : List Parameter) :
    (∃ pair, emit info parameters = .ok pair) ↔
      (∃ pair, emit info [] = .ok pair) ∧
        ∀ parameter ∈ parameters, ∃ pair, emit info [parameter] = .ok pair := by
  simp only [emits_iff, List.forall_mem_singleton]
  constructor
  · rintro ⟨writable, each⟩
    exact ⟨⟨writable, List.forall_mem_nil _⟩, fun parameter present =>
      ⟨writable, each parameter present⟩⟩
  · rintro ⟨⟨writable, -⟩, each⟩
    exact ⟨writable, fun parameter present => (each parameter present).2⟩

/-- A parameter alone is in no conflict. -/
theorem conflictDiagnostics_singleton (parameter : Parameter) :
    conflictDiagnostics [parameter] = [] := by
  by_contra found
  obtain ⟨i, j, p, q, apart, first, second, -⟩ := (conflictDiagnostics_ne_nil_iff _).mp found
  have := (List.getElem?_eq_some_iff.mp first).1
  have := (List.getElem?_eq_some_iff.mp second).1
  simp only [List.length_singleton] at *
  omega

/-! ## 3. A run over classes -/

theorem eventsOf_flatMap (phases : List Nat) (remarks : DeclaredType → List Remark)
    (types : List DeclaredType) :
    eventsOf phases (types.flatMap remarks) = types.flatMap fun type =>
      eventsOf phases (remarks type) := by
  induction types with
  | nil => rfl
  | cons type rest ih => rw [List.flatMap_cons, eventsOf_append, ih, List.flatMap_cons]

/-- What a run adds to an empty record is what its classes add alone, in order. -/
theorem joins_extend (types : List DeclaredType) :
    (({} : Record).extend (types.flatMap (remarksOf settings compilation))
        (types.flatMap (artifactsOf settings compilation))).Joins
      (types.map (alone settings compilation)) where
  artifacts := by
    rw [List.flatMap_map]
    simp only [alone_eq]
    rfl
  diagnostics := by
    rw [List.flatMap_map, Record.diagnostics_extend, findings, List.filterMap_flatMap]
    simp only [alone_eq, Record.diagnostics_extend]
    rfl
  journal := by
    rw [List.flatMap_map, Record.journal_extend, logRecords, List.filterMap_flatMap]
    simp only [alone_eq, Record.journal_extend]
    rfl
  events := by
    rw [List.flatMap_map, Record.trace_extend]
    simp only [alone_eq, Record.trace_extend]
    exact eventsOf_flatMap _ _ types

theorem isEmitted_of_emit_error {type : DeclaredType} {cause : Source.EmitError}
    (refused : emit (infoOf compilation type) (parametersOf settings compilation type) =
      .error cause) : isEmitted settings compilation type = false := by
  rw [isEmitted, ofType_of_emit_error refused]
  rfl

theorem length_artifactsOf (type : DeclaredType) :
    (artifactsOf settings compilation type).length =
      2 * if isEmitted settings compilation type then 1 else 0 := by
  unfold artifactsOf isEmitted
  cases (ClassOutcome.ofType settings compilation type).artifacts <;> rfl

/-- There are two artifacts for each class that is counted. -/
theorem length_flatMap_artifactsOf (types : List DeclaredType) :
    (types.flatMap (artifactsOf settings compilation)).length =
      2 * types.countP (isEmitted settings compilation) := by
  induction types with
  | nil => rfl
  | cons type rest ih =>
    rw [List.flatMap_cons, List.length_append, ih, length_artifactsOf, List.countP_cons]
    omega

/-- Without a class that cannot be written, a run leaves the same artifacts, the same count, and the
same findings but for those about this class. -/
theorem generateAll_without (settings : Settings) (compilation : Compilation)
    {front back : List DeclaredType} {type : DeclaredType} {cause : Source.EmitError}
    (distinct : ((front ++ type :: back).map (·.metadataName)).Nodup)
    (refused : emit (infoOf compilation type) (parametersOf settings compilation type) =
      .error cause) :
    let findingsOf (types : List DeclaredType) :=
      types.flatMap fun type => (alone settings compilation type).diagnostics
    ∃ record others count,
      generateAll settings compilation {} (front ++ type :: back) = (record, .ok count) ∧
      generateAll settings compilation {} (front ++ back) = (others, .ok count) ∧
      others.artifacts = record.artifacts ∧
      others.diagnostics = findingsOf front ++ findingsOf back ∧
      record.diagnostics =
        findingsOf front ++ (alone settings compilation type).diagnostics ++ findingsOf back := by
  intro findingsOf
  have distinct' : ((front ++ back).map (·.metadataName)).Nodup :=
    distinct.sublist (((List.sublist_cons_self type back).append_left front).map _)
  have nothing : artifactsOf settings compilation type = [] := by
    rw [artifactsOf, ofType_of_emit_error refused]
  have uncounted := isEmitted_of_emit_error refused
  have run := generateAll_empty settings compilation distinct
  have run' := generateAll_empty settings compilation distinct'
  have sameCount : (front ++ type :: back).countP (isEmitted settings compilation) =
      (front ++ back).countP (isEmitted settings compilation) := by
    simp [List.countP_append, uncounted]
  have sameArtifacts : (front ++ type :: back).flatMap (artifactsOf settings compilation) =
      (front ++ back).flatMap (artifactsOf settings compilation) := by
    simp [nothing]
  rw [sameCount, sameArtifacts] at run
  refine ⟨_, _, _, run, run', rfl, ?_, ?_⟩
  · rw [(joins_extend (front ++ back)).diagnostics, List.flatMap_map, List.flatMap_append]
  · rw [← sameArtifacts, (joins_extend (front ++ type :: back)).diagnostics, List.flatMap_map,
      List.flatMap_append, List.flatMap_cons, List.append_assoc]

/-- A run over classes with metadata names of their own completes and leaves what each class leaves
alone, joined in order; it counts the classes that have their two artifacts.  Every class leaves the
findings about its conflicts.  One that can be written leaves both artifacts too; one that cannot
leaves none and a warning that it is skipped, and without it the run leaves the same artifacts and
the same findings but for its own.  Whether a class can be written is settled by each of its
parameters alone, where there is no conflict. -/
theorem generateAll_isolated (settings : Settings) (compilation : Compilation)
    {types : List DeclaredType} (distinct : (types.map (·.metadataName)).Nodup) :
    let left := alone settings compilation
    let findingsOf (types : List DeclaredType) := types.flatMap fun type => (left type).diagnostics
    ∃ record count, generateAll settings compilation {} types = (record, .ok count) ∧
      record.Joins (types.map left) ∧
      record.artifacts.artifacts.length = 2 * count ∧
      (∀ type ∈ types,
        let info := infoOf compilation type
        let parameters := parametersOf settings compilation type
        let warnings := (Hierarchy.ofType compilation type).warnings
        (left type).diagnostics = conflictDiagnostics parameters ∧
        ((∃ pair, emit info parameters = .ok pair ∧
            (left type).artifacts.artifacts = [pair.1, pair.2] ∧
            (left type).journal = warnings) ∨
          ∃ cause, emit info parameters = .error cause ∧
            (left type).artifacts.artifacts = [] ∧
            (left type).journal =
              warnings ++ [skipWarning info.qualifiedName cause.message]) ∧
        ((∃ pair, emit info parameters = .ok pair) ↔
          (∃ pair, emit info [] = .ok pair) ∧
            ∀ parameter ∈ parameters, conflictDiagnostics [parameter] = [] ∧
              ∃ pair, emit info [parameter] = .ok pair)) ∧
      ∀ front type back cause, types = front ++ type :: back →
        emit (infoOf compilation type) (parametersOf settings compilation type) = .error cause →
        ∃ others, generateAll settings compilation {} (front ++ back) = (others, .ok count) ∧
          others.artifacts = record.artifacts ∧
          others.diagnostics = findingsOf front ++ findingsOf back ∧
          record.diagnostics = findingsOf front ++ (left type).diagnostics ++ findingsOf back := by
  intro left findingsOf
  refine ⟨_, _, generateAll_empty settings compilation distinct, joins_extend types,
    length_flatMap_artifactsOf types, ?each, ?removal⟩
  case each =>
    intro type _ info parameters warnings
    refine ⟨diagnostics_alone type, ?_, ?_⟩
    · cases emitted : emit info parameters with
      | ok pair => exact .inl ⟨pair, rfl, alone_of_emit_ok emitted⟩
      | error cause => exact .inr ⟨cause, rfl, alone_of_emit_error emitted⟩
    · simp only [conflictDiagnostics_singleton, true_and]
      exact emits_iff_each info parameters
  case removal =>
    rintro front type back cause rfl refused
    obtain ⟨record, others, count, run, run', artifacts, diagnostics, diagnostics'⟩ :=
      generateAll_without settings compilation distinct refused
    rw [generateAll_empty settings compilation distinct] at run
    cases run
    exact ⟨others, run', artifacts, diagnostics, diagnostics'⟩

namespace Example

/-- A compilation that declares nothing. -/
def bare : Compilation := .ofSnapshot {}

/-- A parameter as a class declares it. -/
def declared (name type : String) : Snapshot.Property :=
  ⟨name, type, true, [⟨"Parameter", ""⟩], [{ line := 7 }]⟩

/-- A class that can be written, although two of its parameters are in conflict. -/
def sound : DeclaredType where
  name := "Grid"
  properties := [declared "Rows" "int", declared "rows" "int"]

/-- A class that cannot be written for the type of a parameter, which is also in conflict. -/
def broken : DeclaredType where
  name := "List"
  properties := [declared "Item" "int;", declared "item" "int"]

/-- What is extracted for a parameter of a class. -/
def inherited (name type declaring : String) : Parameter :=
  ⟨⟨declared name type, declaring⟩, "Parameter"⟩

theorem parametersOf_sound : parametersOf {} bare sound =
    [inherited "Rows" "int" "Grid", inherited "rows" "int" "Grid"] := by
  cbv

theorem parametersOf_broken : parametersOf {} bare broken =
    [inherited "Item" "int;" "List", inherited "item" "int" "List"] := by
  cbv

theorem emit_sound : ∃ pair, emit (infoOf bare sound) (parametersOf {} bare sound) = .ok pair := by
  rw [emits_iff, parametersOf_sound]
  refine ⟨⟨.inl rfl, by decide, by decide⟩, ?_⟩
  exact List.forall_mem_cons.mpr ⟨⟨by decide, by decide, by decide⟩,
    List.forall_mem_singleton.mpr ⟨by decide, by decide, by decide⟩⟩

theorem emit_broken :
    ∃ cause, emit (infoOf bare broken) (parametersOf {} bare broken) = .error cause := by
  cases emitted : emit (infoOf bare broken) (parametersOf {} bare broken) with
  | error cause => exact ⟨cause, rfl⟩
  | ok pair =>
    obtain ⟨-, each, -⟩ := emit_eq_ok_iff.mp emitted
    rw [parametersOf_broken] at each
    exact absurd (each _ List.mem_cons_self).2.2 (by decide)

theorem conflictDiagnostics_broken : conflictDiagnostics (parametersOf {} bare broken) ≠ [] := by
  rw [conflictDiagnostics_ne_nil_iff, parametersOf_broken]
  exact ⟨0, 1, _, _, by decide, rfl, rfl, by decide +kernel, by decide⟩

end Example

/-- Of a class that can be written and one that cannot, the run leaves the two artifacts of the
first and the findings about both. -/
theorem generateAll_isolated_broken :
    ([Example.sound, Example.broken].map (·.metadataName)).Nodup ∧
      ∃ record others, generateAll {} Example.bare {} [Example.sound, Example.broken] =
          (record, .ok 1) ∧
        generateAll {} Example.bare {} [Example.sound] = (others, .ok 1) ∧
        others.artifacts = record.artifacts ∧
        record.diagnostics = others.diagnostics ++
          conflictDiagnostics (parametersOf {} Example.bare Example.broken) ∧
        record.diagnostics ≠ others.diagnostics := by
  have distinct : ([Example.sound, Example.broken].map (·.metadataName)).Nodup := by decide
  refine ⟨distinct, ?_⟩
  obtain ⟨pair, emitted⟩ := Example.emit_sound
  obtain ⟨cause, refused⟩ := Example.emit_broken
  obtain ⟨record, count, run, joined, twice, each, without⟩ :=
    generateAll_isolated {} Example.bare distinct
  obtain ⟨others, run', same, found, found'⟩ :=
    without [Example.sound] Example.broken [] cause rfl refused
  have one : count = 1 := by
    rw [joined.artifacts] at twice
    simp only [List.map_cons, List.map_nil, List.flatMap_cons, List.flatMap_nil,
      (alone_of_emit_ok emitted).1, (alone_of_emit_error refused).1] at twice
    simp only [List.append_nil, List.length_cons, List.length_nil] at twice
    omega
  subst one
  obtain ⟨left, -, -⟩ := each Example.broken (by simp)
  simp only [List.flatMap_nil, List.append_nil, left] at found found'
  rw [← found] at found'
  refine ⟨record, others, run, run', same, found', ?_⟩
  rw [found']
  exact fun unchanged =>
    Example.conflictDiagnostics_broken (List.append_right_eq_self.mp unchanged)

end Dispatch

end ComponentPasses

import ComponentPasses.Proofs.Generation

/-!
# What a run writes

The artifacts of a run are fixed by its candidate classes: none without dispatch generation, and
otherwise the declarations of the markers and then, class by class in order, the two artifacts of
each class that can be written.  No two have one name: artifacts are named after the metadata name
of their class, by which candidates are told apart, and in two ways that never coincide with each
other or with the name of the markers (`run_artifacts`).
-/

namespace ComponentPasses

open Snapshot (Compilation DeclaredType)
open Dispatch (ClassInfo infoOf parametersOf artifactsOf namesOf)

variable {settings : Settings} {compilation : Compilation}

/-- The override and the implementation of a class, if they can be emitted. -/
def emitted? (settings : Settings) (compilation : Compilation) (type : DeclaredType) :
    Option (Artifact × Artifact) :=
  match Dispatch.emit (ClassInfo.ofHierarchy (Hierarchy.ofType compilation type))
      (parametersOf settings compilation type) with
  | .ok pair => some pair
  | .error _ => none

theorem emitted?_eq_some_iff {type : DeclaredType} {pair : Artifact × Artifact} :
    emitted? settings compilation type = some pair ↔
      Dispatch.emit (infoOf compilation type) (parametersOf settings compilation type) =
        .ok pair := by
  unfold emitted? infoOf
  split
  · rename_i emitted
    rw [emitted]
    simp
  · rename_i refused
    rw [refused]
    simp

theorem artifactsOf_eq (type : DeclaredType) :
    artifactsOf settings compilation type =
      ((emitted? settings compilation type).map fun pair => [pair.1, pair.2]).getD [] := by
  unfold artifactsOf Dispatch.ClassOutcome.ofType emitted? parametersOf
  dsimp only
  cases Dispatch.emit (ClassInfo.ofHierarchy (Hierarchy.ofType compilation type))
      (Parameter.ofChain settings (Hierarchy.ofType compilation type).chain) with
  | ok pair => rfl
  | error cause => rfl

/-- The artifacts of classes are the pairs of those that can be emitted, in order. -/
theorem flatMap_artifactsOf (types : List DeclaredType) :
    types.flatMap (artifactsOf settings compilation) =
      (types.filterMap (emitted? settings compilation)).flatMap fun pair => [pair.1, pair.2] := by
  induction types with
  | nil => rfl
  | cons type rest ih =>
    rw [List.flatMap_cons, ih, artifactsOf_eq, List.filterMap_cons]
    cases emitted? settings compilation type with
    | none => rfl
    | some pair => rfl

/-- The artifacts of a class are named after its metadata name. -/
theorem names_of_emitted {type : DeclaredType} {pair : Artifact × Artifact}
    (emitted : emitted? settings compilation type = some pair) :
    [pair.1.name, pair.2.name] = namesOf type := by
  have names := Dispatch.map_name_artifactsOf settings compilation type
  rw [artifactsOf_eq, emitted] at names
  exact names.eq_of_length rfl

/-- Classes of different metadata names have artifacts of different names. -/
theorem nodup_names_artifactsOf {types : List DeclaredType}
    (distinct : (types.map (·.metadataName)).Nodup) :
    ((types.flatMap (artifactsOf settings compilation)).map (·.name)).Nodup := by
  rw [List.map_flatMap]
  refine List.nodup_flatMap.mpr ⟨fun type _ => ?_, ?_⟩
  · exact (Dispatch.nodup_namesOf type).sublist (Dispatch.map_name_artifactsOf _ _ type)
  · refine (List.pairwise_map.mp distinct).imp ?_
    intro type type' apart name here there
    have meant := (Dispatch.map_name_artifactsOf settings compilation type).subset here
    have meant' := (Dispatch.map_name_artifactsOf settings compilation type').subset there
    exact apart (Dispatch.metadataName_eq_of_mem_namesOf meant meant')

/-- The artifacts of a run have names of their own. -/
theorem nodup_names_allArtifacts (settings : Settings) (compilation : Compilation) :
    ((allArtifacts settings compilation).map (·.name)).Nodup := by
  rw [allArtifacts]
  split
  · rw [dispatchArtifacts, List.map_cons]
    refine List.nodup_cons.mpr
      ⟨?_, nodup_names_artifactsOf (nodup_metadataName_collect settings compilation)⟩
    intro taken
    obtain ⟨artifact, added, same⟩ := List.mem_map.mp taken
    obtain ⟨type, -, its⟩ := List.mem_flatMap.mp added
    have meant := (Dispatch.map_name_artifactsOf settings compilation type).subset
      (List.mem_map.mpr ⟨artifact, its, same⟩)
    exact Dispatch.markerName_not_mem_namesOf type meant
  · exact List.nodup_nil

/-- A run always completes.  Without dispatch generation it has no artifacts.  With it, the first is
that of the markers, and the rest are an override followed by its implementation for each candidate
class that can be emitted, in the order of the candidates, named after the class.  All names
differ. -/
theorem run_artifacts (settings : Settings) (snapshot : Snapshot) :
    let compilation := Compilation.ofSnapshot snapshot
    let classes := (Candidates.collect settings compilation).classes
    ∃ generation, (run settings compilation).result = .ok generation ∧
      (settings.generateDispatch = false → generation.artifacts = []) ∧
      (settings.generateDispatch = true →
        generation.artifacts = Dispatch.markerArtifact ::
          (classes.filterMap (emitted? settings compilation)).flatMap
            fun pair => [pair.1, pair.2]) ∧
      (∀ type ∈ classes, ∀ pair, emitted? settings compilation type = some pair →
        pair.1.name = type.metadataName ++ "_override" ∧
          pair.2.name = type.metadataName ++ "_implementation") ∧
      (generation.artifacts.map (·.name)).Nodup := by
  intro compilation classes
  obtain ⟨generation, completed, -, artifacts, -⟩ := run_eq settings compilation
  refine ⟨generation, completed, ?off, ?on, ?names, ?apart⟩
  case off =>
    intro off
    rw [artifacts, allArtifacts, off]
    rfl
  case on =>
    intro on
    rw [artifacts, allArtifacts, if_pos on, dispatchArtifacts, flatMap_artifactsOf]
  case names =>
    intro type _ pair emitted
    have names := names_of_emitted emitted
    simp only [namesOf, List.cons.injEq, and_true] at names
    exact names
  case apart =>
    rw [artifacts]
    exact nodup_names_allArtifacts settings compilation

namespace Example

/-- The class of `placed` can be emitted. -/
theorem emitted?_placed :
    ∃ pair, emitted? {} (.ofSnapshot placed)
      (page [parameter "Name" [{ line := 3 }], parameter "name" []]) = some pair := by
  have writable : (ClassInfo.ofHierarchy (Hierarchy.ofType (.ofSnapshot placed)
      (page [parameter "Name" [{ line := 3 }], parameter "name" []]))).Writable :=
    ⟨.inl rfl, by decide, by decide⟩
  have each : ∀ p ∈ parametersOf {} (.ofSnapshot placed)
      (page [parameter "Name" [{ line := 3 }], parameter "name" []]), Dispatch.Writable p := by
    rw [placed, parametersOf_page]
    refine List.forall_mem_cons.mpr ⟨⟨by decide, by decide, by decide⟩, ?_⟩
    exact List.forall_mem_singleton.mpr ⟨by decide, by decide, by decide⟩
  exact ⟨_, by rw [emitted?, Dispatch.emit_eq_ok_iff.mpr ⟨writable, each, rfl⟩]⟩

end Example

/-- A run over one class that can be emitted has three artifacts, in this order. -/
theorem run_artifacts_placed :
    ({} : Settings).generateDispatch = true ∧
      ∃ generation, (run {} (.ofSnapshot Example.placed)).result = .ok generation ∧
        generation.artifacts.map (·.name) =
          [Dispatch.markerArtifact.name, "Page_override", "Page_implementation"] := by
  refine ⟨rfl, ?_⟩
  obtain ⟨generation, completed, -, on, names, -⟩ := run_artifacts {} Example.placed
  obtain ⟨pair, emitted⟩ := Example.emitted?_placed
  rw [Example.classes_placed] at names on
  obtain ⟨first, second⟩ := names _ List.mem_cons_self pair emitted
  refine ⟨generation, completed, ?_⟩
  rw [on rfl, List.filterMap_cons, emitted]
  simp only [List.filterMap_nil, List.flatMap_singleton, List.map_cons, List.map_nil, first, second]
  rfl

end ComponentPasses

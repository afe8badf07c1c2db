import ComponentPasses.Dispatch.Generation
import ComponentPasses.Proofs.Dispatch.Plan
import ComponentPasses.Proofs.Record
import Mathlib.Data.List.Nodup

/-!
# Dispatch generation always completes

A run over classes stops where the name of an artifact is taken.  The artifacts of a class are
named after its metadata name, in two ways that never coincide, so over classes with metadata names
of their own the run completes (`generateAll_eq`).  What it adds to the record is then, class by
class, what comes of each class alone.
-/

namespace ComponentPasses.Dispatch

open Snapshot (Compilation DeclaredType)

variable {settings : Settings} {compilation : Compilation}

/-! ## 1. What comes of a class -/

/-- The parameters of a class in a compilation. -/
def parametersOf (settings : Settings) (compilation : Compilation) (type : DeclaredType) :
    List Parameter :=
  Parameter.ofChain settings (Hierarchy.ofType compilation type).chain

/-- The remarks about a class. -/
def remarksOf (settings : Settings) (compilation : Compilation) (type : DeclaredType) :
    List Remark :=
  (ClassOutcome.ofType settings compilation type).remarks

/-- The artifacts of a class, in the order they are added; none if they cannot be written. -/
def artifactsOf (settings : Settings) (compilation : Compilation) (type : DeclaredType) :
    List Artifact :=
  match (ClassOutcome.ofType settings compilation type).artifacts with
  | none => []
  | some (first, second) => [first, second]

/-- What the source says about a class itself. -/
def infoOf (compilation : Compilation) (type : DeclaredType) : ClassInfo :=
  ClassInfo.ofHierarchy (Hierarchy.ofType compilation type)

/-- Whether a class gets artifacts. -/
def isEmitted (settings : Settings) (compilation : Compilation) (type : DeclaredType) : Bool :=
  (ClassOutcome.ofType settings compilation type).artifacts.isSome

/-- The remarks about a class that are made whether or not it can be written. -/
def openingRemarks (settings : Settings) (compilation : Compilation) (type : DeclaredType) :
    List Remark :=
  (Hierarchy.ofType compilation type).warnings.map .logged ++
    [.inspected (infoOf compilation type).qualifiedName
      (toString (parametersOf settings compilation type).length ++ " parameters")
      (" -> ".intercalate (infoOf compilation type).hierarchy)] ++
    (conflictDiagnostics (parametersOf settings compilation type)).map .reported

/-- The remarks that a class is skipped. -/
def skipRemarks (info : ClassInfo) (cause : Source.EmitError) : List Remark :=
  [.logged (skipWarning info.qualifiedName cause.message),
    .skipped info.qualifiedName cause.message]

theorem ofType_of_emit_ok {type : DeclaredType} {pair : Artifact × Artifact}
    (emitted : emit (infoOf compilation type) (parametersOf settings compilation type) = .ok pair) :
    ClassOutcome.ofType settings compilation type =
      ⟨openingRemarks settings compilation type, some pair⟩ := by
  unfold infoOf parametersOf at emitted
  unfold ClassOutcome.ofType
  dsimp only
  rw [emitted]
  rfl

theorem ofType_of_emit_error {type : DeclaredType} {cause : Source.EmitError}
    (refused : emit (infoOf compilation type) (parametersOf settings compilation type) =
      .error cause) :
    ClassOutcome.ofType settings compilation type =
      ⟨openingRemarks settings compilation type ++ skipRemarks (infoOf compilation type) cause,
        none⟩ := by
  unfold infoOf parametersOf at refused
  unfold ClassOutcome.ofType
  dsimp only
  rw [refused]
  rfl

theorem findings_openingRemarks (type : DeclaredType) :
    findings (openingRemarks settings compilation type) =
      conflictDiagnostics (parametersOf settings compilation type) := by
  rw [openingRemarks, findings_append, findings_append, findings_map_logged, findings_map_reported]
  rfl

theorem logRecords_openingRemarks (type : DeclaredType) :
    logRecords (openingRemarks settings compilation type) =
      (Hierarchy.ofType compilation type).warnings := by
  rw [openingRemarks, logRecords_append, logRecords_append, logRecords_map_logged,
    logRecords_map_reported]
  exact (List.append_nil _).trans (List.append_nil _)

/-- The findings about a class are those about its conflicts, whether or not it can be written. -/
theorem findings_remarksOf (type : DeclaredType) :
    findings (remarksOf settings compilation type) =
      conflictDiagnostics (parametersOf settings compilation type) := by
  unfold remarksOf
  cases emitted : emit (infoOf compilation type) (parametersOf settings compilation type) with
  | ok pair =>
    rw [ofType_of_emit_ok emitted]
    exact findings_openingRemarks type
  | error cause =>
    rw [ofType_of_emit_error emitted, findings_append, findings_openingRemarks]
    exact List.append_nil _

/-! ## 2. Names -/

/-- The names of the artifacts that a class may get. -/
def namesOf (type : DeclaredType) : List String :=
  [type.metadataName ++ "_override", type.metadataName ++ "_implementation"]

/-- The artifacts of a class have the names that are meant for it. -/
theorem map_name_artifactsOf (settings : Settings) (compilation : Compilation)
    (type : DeclaredType) :
    ((artifactsOf settings compilation type).map (·.name)).Sublist (namesOf type) := by
  unfold artifactsOf
  cases emitted : emit (infoOf compilation type) (parametersOf settings compilation type) with
  | ok pair =>
    rw [ofType_of_emit_ok emitted]
    obtain ⟨-, -, rfl⟩ := emit_eq_ok_iff.mp emitted
    exact List.Sublist.refl _
  | error cause =>
    rw [ofType_of_emit_error emitted]
    exact List.nil_sublist _

/-- The last two characters of a text, the last one first. -/
def ending (s : String) : List Char :=
  s.toList.reverse.take 2

theorem ending_append (s : String) {t : String} (long : 2 ≤ t.toList.length) :
    ending (s ++ t) = ending t := by
  rw [ending, String.toList_append, List.reverse_append, List.take_append_of_le_length (by simpa)]
  rfl

theorem override_ne_implementation (s t : String) : s ++ "_override" ≠ t ++ "_implementation" := by
  intro same
  have := congrArg ending same
  rw [ending_append s (by decide), ending_append t (by decide)] at this
  exact absurd this (by decide)

/-- The declarations of the markers have a name that is not meant for a class. -/
theorem markerName_not_mem_namesOf (type : DeclaredType) :
    markerArtifact.name ∉ namesOf type := by
  intro h
  rcases List.mem_pair.mp h with same | same
  · have := congrArg ending same
    rw [ending_append _ (by decide)] at this
    exact absurd this (by decide)
  · have := congrArg ending same
    rw [ending_append _ (by decide)] at this
    exact absurd this (by decide)

theorem nodup_namesOf (type : DeclaredType) : (namesOf type).Nodup := by
  simp [namesOf]

/-- A name is meant for the classes of one metadata name only. -/
theorem metadataName_eq_of_mem_namesOf {type type' : DeclaredType} {name : String}
    (h : name ∈ namesOf type) (h' : name ∈ namesOf type') :
    type.metadataName = type'.metadataName := by
  rcases List.mem_pair.mp h with rfl | rfl
  · rcases List.mem_pair.mp h' with same | same
    · exact (String.append_left_inj _).mp same
    · exact absurd same (override_ne_implementation _ _)
  · rcases List.mem_pair.mp h' with same | same
    · exact absurd same.symm (override_ne_implementation _ _)
    · exact (String.append_left_inj _).mp same

/-! ## 3. A run over classes -/

theorem addBoth_of_free {record : Record} {first second : Artifact}
    (free : first.name ∉ record.artifacts.names) (free' : second.name ∉ record.artifacts.names)
    (apart : first.name ≠ second.name) :
    addBoth record (first, second) = (record.extend [] [first, second], .ok ()) := by
  have fresh : second.name ∉ (record.extend [] [first]).artifacts.names := by
    rw [Record.names_extend]
    simp [free', Ne.symm apart]
  simp only [addBoth, Record.add_of_fresh free, Record.add_of_fresh fresh, Record.extend_extend]
  rfl

/-- A class whose names are free adds to the record what comes of it. -/
theorem generate_eq (settings : Settings) (compilation : Compilation) {record : Record}
    {type : DeclaredType}
    (free : ∀ name ∈ namesOf type, name ∉ record.artifacts.names) :
    generate settings compilation record type =
      (record.extend (remarksOf settings compilation type)
        (artifactsOf settings compilation type), .ok (isEmitted settings compilation type)) := by
  unfold generate
  dsimp only
  rw [Record.noteAll_eq_extend]
  cases given : (ClassOutcome.ofType settings compilation type).artifacts with
  | none =>
    have artifacts : artifactsOf settings compilation type = [] := by simp [artifactsOf, given]
    rw [artifacts, isEmitted, given]
    rfl
  | some pair =>
    obtain ⟨first, second⟩ := pair
    have artifacts : artifactsOf settings compilation type = [first, second] := by
      simp [artifactsOf, given]
    have names := map_name_artifactsOf settings compilation type
    rw [artifacts] at names
    have names : [first.name, second.name] = namesOf type := names.eq_of_length rfl
    have distinct := nodup_namesOf type
    rw [← names] at free distinct
    have noted : ∀ name ∈ [first.name, second.name],
        name ∉ (record.extend (remarksOf settings compilation type) []).artifacts.names := by
      rw [Record.names_extend, List.map_nil, List.append_nil]
      exact free
    have added := addBoth_of_free (noted first.name (by simp))
      (noted second.name (by simp)) (by simpa using distinct)
    rw [Record.extend_extend, List.append_nil, List.nil_append, ← artifacts] at added
    dsimp only
    rw [← remarksOf, added, isEmitted, given]
    rfl

/-- Over classes whose names are free and their own, generation completes, and it adds to the record
what comes of each class, in order; it counts those that get artifacts. -/
theorem generateAll_eq (settings : Settings) (compilation : Compilation) {record : Record}
    {types : List DeclaredType}
    (distinct : (types.map (·.metadataName)).Nodup)
    (free : ∀ name ∈ types.flatMap namesOf, name ∉ record.artifacts.names) :
    generateAll settings compilation record types =
      (record.extend (types.flatMap (remarksOf settings compilation))
        (types.flatMap (artifactsOf settings compilation)),
      .ok (types.countP (isEmitted settings compilation))) := by
  induction types generalizing record with
  | nil => simp [generateAll, Record.extend_nil]
  | cons type rest ih =>
    obtain ⟨notLater, distinct⟩ := List.nodup_cons.mp distinct
    have step := generate_eq settings compilation
      fun name h => free name (List.mem_append_left _ h)
    have free' : ∀ name ∈ rest.flatMap namesOf,
        name ∉ (record.extend (remarksOf settings compilation type)
          (artifactsOf settings compilation type)).artifacts.names := by
      intro name later
      rw [Record.names_extend, List.mem_append, not_or]
      refine ⟨free name (List.mem_append_right _ later), fun now => ?_⟩
      obtain ⟨other, present, meant⟩ := List.mem_flatMap.mp later
      have meant' := (map_name_artifactsOf settings compilation type).subset now
      exact notLater (List.mem_map.mpr
        ⟨other, present, metadataName_eq_of_mem_namesOf meant meant'⟩)
    rw [generateAll, step]
    dsimp only
    rw [ih distinct free', Record.extend_extend, List.countP_cons]
    cases isEmitted settings compilation type <;> rfl

end ComponentPasses.Dispatch

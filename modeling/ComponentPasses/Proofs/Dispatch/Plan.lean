import ComponentPasses.Dispatch.Emission
import ComponentPasses.Proofs.Source.Names

/-!
# What a plan holds

A plan is made exactly if every name and type passes its check, and then it is one particular plan,
`planOf` (`build_eq_ok_iff`).  Emission succeeds with the artifacts of such a plan
(`emit_eq_ok_iff`).
-/

namespace ComponentPasses.Dispatch

open Source

/-- The arm that sets the property of a parameter where a name is met. -/
def armFor (name : String) (parameter : Parameter) : Arm :=
  ⟨stringLiteral name, writtenName parameter.name, Text.trim parameter.type⟩

/-- Whether a parameter's name and type can be written. -/
def Writable (parameter : Parameter) : Prop :=
  isIdentifier parameter.name.toList = true ∧ isTypeText parameter.type

/-- Whether everything about a class that goes into the source can be written. -/
structure ClassInfo.Writable (info : ClassInfo) : Prop where
  enclosing : info.enclosing = "" ∨
    ∀ part ∈ Text.split '.' info.enclosing, isIdentifier part.toList = true
  name : isIdentifier info.name.toList = true
  typeParameters : ∀ parameter ∈ info.typeParameters, isIdentifier parameter.toList = true

/-- The plan of a class whose names and types can be written. -/
def planOf (info : ClassInfo) (parameters : List Parameter) : Plan where
  enclosing := if info.enclosing = "" then "" else writtenNamespace info.enclosing
  keyword := info.kind.keyword
  typeName := writtenName info.name
  typeParameters := info.typeParameters.map writtenName
  artifactStem := info.metadataName
  exactArms := parameters.map fun parameter => armFor parameter.name parameter
  loweredArms := parameters.map fun parameter => armFor parameter.loweredName parameter

theorem checks_armsOf :
    Checks Plan.armsOf Writable fun parameter =>
      (armFor parameter.name parameter, armFor parameter.loweredName parameter) := by
  intro parameter arms
  simp only [Plan.armsOf, bind_eq_ok_iff, checks_escapeIdentifier _ _, checks_escapeType _ _]
  constructor
  · rintro ⟨_, ⟨named, rfl⟩, _, ⟨typed, rfl⟩, done⟩
    cases done
    exact ⟨⟨named, typed⟩, rfl⟩
  · rintro ⟨⟨named, typed⟩, rfl⟩
    exact ⟨_, ⟨named, rfl⟩, _, ⟨typed, rfl⟩, rfl⟩

/-- What is written for the namespace of a class, which may have none. -/
theorem checks_enclosing :
    Checks (fun name => if name = "" then pure "" else escapeNamespace name)
      (fun name => name = "" ∨ ∀ part ∈ Text.split '.' name, isIdentifier part.toList = true)
      (fun name => if name = "" then "" else writtenNamespace name) := by
  intro name written
  dsimp only
  split
  · rename_i global
    exact ⟨fun done => ⟨.inl global, (Except.ok.inj done).symm⟩, fun h => congrArg _ h.2.symm⟩
  · rename_i inside
    rw [checks_escapeNamespace name written, or_iff_right inside]

/-- A plan is made exactly for what can be written, and it is the one plan of the class. -/
theorem build_eq_ok_iff {info : ClassInfo} {parameters : List Parameter} {plan : Plan} :
    Plan.build info parameters = .ok plan ↔
      info.Writable ∧ (∀ parameter ∈ parameters, Writable parameter) ∧
        plan = planOf info parameters := by
  rw [Plan.build, bind_eq_ok_iff]
  constructor
  · rintro ⟨arms, armed, rest⟩
    obtain ⟨writable, rfl⟩ := (checks_armsOf.mapM _ _).mp armed
    dsimp only at rest
    rw [ite_bind] at rest
    obtain ⟨enclosing, enclosed, rest⟩ := bind_eq_ok_iff.mp rest
    obtain ⟨inside, rfl⟩ := (checks_enclosing _ _).mp enclosed
    obtain ⟨typeName, named, rest⟩ := bind_eq_ok_iff.mp rest
    obtain ⟨identifier, rfl⟩ := (checks_escapeIdentifier _ _).mp named
    obtain ⟨typeParameters, listed, rest⟩ := bind_eq_ok_iff.mp rest
    obtain ⟨identifiers, rfl⟩ := (checks_escapeIdentifier.mapM _ _).mp listed
    cases rest
    exact ⟨⟨inside, identifier, identifiers⟩, writable, by simp [planOf, Function.comp_def]⟩
  · rintro ⟨⟨inside, identifier, identifiers⟩, writable, rfl⟩
    refine ⟨_, (checks_armsOf.mapM _ _).mpr ⟨writable, rfl⟩, ?_⟩
    dsimp only
    rw [ite_bind]
    refine bind_eq_ok_iff.mpr ⟨_, (checks_enclosing _ _).mpr ⟨inside, rfl⟩, ?_⟩
    refine bind_eq_ok_iff.mpr ⟨_, (checks_escapeIdentifier _ _).mpr ⟨identifier, rfl⟩, ?_⟩
    refine bind_eq_ok_iff.mpr ⟨_, (checks_escapeIdentifier.mapM _ _).mpr ⟨identifiers, rfl⟩, ?_⟩
    simp [planOf, Function.comp_def, pure, Except.pure]

/-- Emission succeeds exactly for what can be written, with the artifacts of the plan. -/
theorem emit_eq_ok_iff {info : ClassInfo} {parameters : List Parameter}
    {pair : Artifact × Artifact} :
    emit info parameters = .ok pair ↔
      info.Writable ∧ (∀ parameter ∈ parameters, Writable parameter) ∧
        pair = artifacts (planOf info parameters) := by
  unfold emit
  constructor
  · intro emitted
    cases built : Plan.build info parameters with
    | error cause => rw [built] at emitted; cases emitted
    | ok plan =>
      rw [built] at emitted
      cases emitted
      obtain ⟨writable, each, rfl⟩ := build_eq_ok_iff.mp built
      exact ⟨writable, each, rfl⟩
  · rintro ⟨writable, each, rfl⟩
    rw [build_eq_ok_iff.mpr ⟨writable, each, rfl⟩]
    rfl

end ComponentPasses.Dispatch

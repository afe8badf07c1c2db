import ComponentPasses.Proofs.Snapshot.Lookup

/-!
# Types without their locations

A type says where it and its properties are declared, for reports only.  `unlocated` takes that
away and leaves everything else.  Two snapshots that declare the same types in the same order but
for locations find the same types, but for that, under every name (`sameTypes_ofSnapshot`).
-/

namespace ComponentPasses.Snapshot

/-- A property, but for where it is declared. -/
def Property.unlocated (property : Property) : Property :=
  { property with locations := [] }

namespace DeclaredType

/-- A type, but for where it and its properties are declared. -/
def unlocated (type : DeclaredType) : DeclaredType :=
  { type with properties := type.properties.map (·.unlocated), locations := [] }

@[simp] theorem metadataName_unlocated (type : DeclaredType) :
    type.unlocated.metadataName = type.metadataName := rfl

end DeclaredType

namespace Compilation

/-- Both compilations answer every look-up of a type alike, but for locations. -/
def SameTypes (compilation compilation' : Compilation) : Prop :=
  ∀ metadataName, (compilation.type? metadataName).map (·.unlocated) =
    (compilation'.type? metadataName).map (·.unlocated)

variable {compilation compilation' : Compilation}

theorem SameTypes.eq_none (same : compilation.SameTypes compilation') {metadataName : String}
    (undeclared : compilation.type? metadataName = none) :
    compilation'.type? metadataName = none := by
  have answers := same metadataName
  rw [undeclared] at answers
  exact Option.map_eq_none_iff.mp answers.symm

theorem SameTypes.exists_alike (same : compilation.SameTypes compilation') {metadataName : String}
    {type : DeclaredType} (found : compilation.type? metadataName = some type) :
    ∃ type', compilation'.type? metadataName = some type' ∧ type.unlocated = type'.unlocated := by
  have answers := same metadataName
  rw [found] at answers
  obtain ⟨type', found', alike⟩ := Option.map_eq_some_iff.mp answers.symm
  exact ⟨type', found', alike.symm⟩

theorem sameTypes_ofSnapshot {snapshot snapshot' : Snapshot}
    (same : snapshot.types.map (·.unlocated) = snapshot'.types.map (·.unlocated)) :
    (ofSnapshot snapshot).SameTypes (ofSnapshot snapshot') := by
  intro metadataName
  -- the first type of the name is found at the same place in the types without their locations
  have found : ∀ types : List DeclaredType,
      (types.find? fun type => type.metadataName = metadataName).map (·.unlocated) =
        (types.map (·.unlocated)).find? fun type => type.metadataName = metadataName := by
    intro types
    rw [List.find?_map]
    rfl
  rw [type?_ofSnapshot, type?_ofSnapshot, found, found, same]

end Compilation

end ComponentPasses.Snapshot

import ComponentPasses.Proofs.Artifacts
import ComponentPasses.Proofs.Hierarchy

/-!
# What the artifacts depend on

A snapshot says much that no artifact shows.  Two things about it fix them:

* the **types** it declares, in order, without the places where they and their properties are
  declared.  Emission never asks for a place (`emit_unlocated`), so a class that is looked up in two
  compilations with such types comes out the same (`emitted?_congr`);
* the **symbols** of the class declarations on which an attribute is written.  Where such a
  declaration stands, how often its symbol comes again, and every other node, do not count.

With the same types and the same symbols, two runs have the same artifacts, and in the same order if
the symbols first occur in the same order (`run_artifacts_depend`).
-/

namespace ComponentPasses

open Snapshot (Compilation DeclaredType)
open Dispatch (ClassInfo parametersOf infoOf)

variable {settings : Settings} {compilation compilation' : Compilation}
  {type type' : DeclaredType}

/-! ## 1. Parameters -/

/-- A parameter, but for where it is declared. -/
def Parameter.unlocated (parameter : Parameter) : Parameter :=
  { parameter with
    member := { parameter.member with property := parameter.member.property.unlocated } }

theorem members_unlocated (chain : List DeclaredType) :
    members (chain.map (·.unlocated)) =
      (members chain).map fun member => { member with property := member.property.unlocated } := by
  rw [members, members, List.flatMap_map, List.map_flatMap]
  refine List.flatMap_congr fun type _ => ?_
  rw [DeclaredType.unlocated, List.map_map, List.map_map]
  rfl

/-- Which members are parameters does not depend on where they are declared. -/
theorem ofMember?_unlocated (settings : Settings) (member : InheritedProperty) :
    Parameter.ofMember? settings { member with property := member.property.unlocated } =
      (Parameter.ofMember? settings member).map (·.unlocated) := by
  unfold Parameter.ofMember?
  rw [apply_ite (Option.map _), Option.map_map]
  rfl

theorem ofChain_unlocated (settings : Settings) (chain : List DeclaredType) :
    Parameter.ofChain settings (chain.map (·.unlocated)) =
      (Parameter.ofChain settings chain).map (·.unlocated) := by
  rw [Parameter.ofChain, members_unlocated, List.filterMap_map, Parameter.ofChain,
    List.map_filterMap]
  exact List.filterMap_congr fun member _ => ofMember?_unlocated settings member

/-! ## 2. Emission -/

/-- What is emitted does not depend on where the parameters are declared. -/
theorem emit_unlocated (info : ClassInfo) (parameters : List Parameter) :
    Dispatch.emit info (parameters.map (·.unlocated)) = Dispatch.emit info parameters := by
  rw [Dispatch.emit, Dispatch.emit, Dispatch.Plan.build, Dispatch.Plan.build, List.mapM_map]
  rfl

theorem infoOf_congr (same : compilation.SameTypes compilation')
    (alike : type.unlocated = type'.unlocated) :
    infoOf compilation type = infoOf compilation' type' := by
  -- the parts are read off the type and the chain without their locations
  have read : ∀ (compilation : Compilation) (type : DeclaredType), infoOf compilation type =
      ⟨type.unlocated.name, type.unlocated.enclosing, type.unlocated.kind,
        type.unlocated.typeParameters,
        ((Hierarchy.ofType compilation type).chain.map (·.unlocated)).map (·.qualifiedName)⟩ := by
    intro compilation type
    rw [List.map_map]
    rfl
  rw [read, read, alike, Hierarchy.map_unlocated_chain same alike]

theorem parametersOf_congr (same : compilation.SameTypes compilation')
    (alike : type.unlocated = type'.unlocated) :
    (parametersOf settings compilation type).map (·.unlocated) =
      (parametersOf settings compilation' type').map (·.unlocated) := by
  rw [parametersOf, parametersOf, ← ofChain_unlocated, ← ofChain_unlocated,
    Hierarchy.map_unlocated_chain same alike]

/-- Types that are alike but for locations come out the same where types are. -/
theorem emitted?_congr (same : compilation.SameTypes compilation')
    (alike : type.unlocated = type'.unlocated) :
    emitted? settings compilation type = emitted? settings compilation' type' := by
  have emits : Dispatch.emit (infoOf compilation type) (parametersOf settings compilation type) =
      Dispatch.emit (infoOf compilation' type') (parametersOf settings compilation' type') := by
    rw [← emit_unlocated, parametersOf_congr same alike, emit_unlocated, infoOf_congr same alike]
  refine Option.ext fun pair => ?_
  rw [emitted?_eq_some_iff, emitted?_eq_some_iff, emits]

/-! ## 3. Runs -/

/-- What is emitted for a symbol, if its type is a candidate class that can be emitted. -/
def emittedFor? (settings : Settings) (compilation : Compilation) (symbol : String) :
    Option (Artifact × Artifact) :=
  (candidateOfSymbol? settings compilation symbol).bind (emitted? settings compilation)

theorem emittedFor?_congr (same : compilation.SameTypes compilation') (symbol : String) :
    emittedFor? settings compilation symbol = emittedFor? settings compilation' symbol := by
  unfold emittedFor? candidateOfSymbol?
  cases found : compilation.type? symbol with
  | none =>
    rw [same.eq_none found]
    rfl
  | some type =>
    obtain ⟨type', found', alike⟩ := same.exists_alike found
    have candidate : isCandidateClass settings type = isCandidateClass settings type' := by
      show isCandidateClass settings type.unlocated = isCandidateClass settings type'.unlocated
      rw [alike]
    rw [found', Option.filter_some, Option.filter_some, candidate]
    cases isCandidateClass settings type' with
    | false => rfl
    | true => exact emitted?_congr same alike

/-- The artifacts that follow symbols: the declarations of the markers, and then what is emitted for
each symbol. -/
def artifactsFor (settings : Settings) (compilation : Compilation) (symbols : List String) :
    List Artifact :=
  Dispatch.markerArtifact ::
    (symbols.filterMap (emittedFor? settings compilation)).flatMap fun pair => [pair.1, pair.2]

theorem artifactsFor_congr (same : compilation.SameTypes compilation') (symbols : List String) :
    artifactsFor settings compilation symbols = artifactsFor settings compilation' symbols := by
  have each : emittedFor? settings compilation = emittedFor? settings compilation' :=
    funext (emittedFor?_congr same)
  rw [artifactsFor, artifactsFor, each]

theorem artifactsFor_perm {symbols symbols' : List String} (reordered : symbols.Perm symbols') :
    (artifactsFor settings compilation symbols).Perm (artifactsFor settings compilation symbols') :=
  ((reordered.filterMap _).flatMap_right _).cons _

/-- With dispatch generation, the artifacts of a snapshot follow the first occurrences of the
symbols of its class declarations with a written attribute. -/
theorem allArtifacts_by_symbol (settings : Settings) (snapshot : Snapshot) :
    allArtifacts settings (.ofSnapshot snapshot) =
      if settings.generateDispatch then
        artifactsFor settings (.ofSnapshot snapshot) (attributedSymbols snapshot).eraseDups
      else [] := by
  rw [allArtifacts, dispatchArtifacts, flatMap_artifactsOf, classes_collect,
    List.filterMap_filterMap]
  rfl

/-- **What the artifacts depend on.**  Where two snapshots declare the same types in the same order
but for locations, and have an attribute written on class declarations of the same symbols, their
runs complete with the same artifacts, name and content, if perhaps in another order.  The order is
the same as well where the symbols first occur in the same order. -/
theorem run_artifacts_depend (settings : Settings) {snapshot snapshot' : Snapshot}
    (types : snapshot.types.map (·.unlocated) = snapshot'.types.map (·.unlocated))
    (symbols : ∀ symbol, symbol ∈ attributedSymbols snapshot ↔
      symbol ∈ attributedSymbols snapshot') :
    ∃ generation generation' : Generation,
      (run settings (.ofSnapshot snapshot)).result = .ok generation ∧
      (run settings (.ofSnapshot snapshot')).result = .ok generation' ∧
      generation.artifacts.Perm generation'.artifacts ∧
      ((attributedSymbols snapshot).eraseDups = (attributedSymbols snapshot').eraseDups →
        generation.artifacts = generation'.artifacts) := by
  obtain ⟨generation, completed, -, artifacts, -⟩ := run_eq settings (.ofSnapshot snapshot)
  obtain ⟨generation', completed', -, artifacts', -⟩ := run_eq settings (.ofSnapshot snapshot')
  rw [allArtifacts_by_symbol] at artifacts artifacts'
  have same : ∀ symbols, artifactsFor settings (.ofSnapshot snapshot) symbols =
      artifactsFor settings (.ofSnapshot snapshot') symbols :=
    artifactsFor_congr (Compilation.sameTypes_ofSnapshot types)
  refine ⟨generation, generation', completed, completed', ?perm, ?order⟩
  case perm =>
    rw [artifacts, artifacts', same]
    split
    · exact artifactsFor_perm (eraseDups_perm symbols)
    · exact List.Perm.refl _
  case order =>
    intro order
    rw [artifacts, artifacts', same, order]

namespace Example

open LoopKeys.Example (call method)

/-- The class of `placed` without its places.  It is declared twice, once inside a class without
attributes and once in a file of its own, below a method. -/
def scattered : Snapshot where
  types := unplaced.types
  files :=
    [{ path := "Outer.cs"
       members := [.classDeclaration "Outer" (some "Outer") []
         [.classDeclaration "Page" (some "Page") ["Obsolete"] [] { line := 9 }] {}] },
     { path := "Page.cs"
       members := [method "Render" "Page.Render" [call "OpenElement"],
         .classDeclaration "Page" (some "Page") [inclusionMarker] [] {}] }]

end Example

/-- The class of `placed` comes out the same where it is declared twice. -/
theorem run_artifacts_depend_scattered :
    Example.placed.types.map (·.unlocated) = Example.scattered.types.map (·.unlocated) ∧
      (∀ symbol, symbol ∈ attributedSymbols Example.placed ↔
        symbol ∈ attributedSymbols Example.scattered) ∧
      ∃ generation generation' : Generation,
        (run {} (.ofSnapshot Example.placed)).result = .ok generation ∧
        (run {} (.ofSnapshot Example.scattered)).result = .ok generation' ∧
        generation.artifacts = generation'.artifacts := by
  have once : attributedSymbols Example.placed = ["Page"] := rfl
  have twice : attributedSymbols Example.scattered = ["Page", "Page"] := rfl
  have types : Example.placed.types.map (·.unlocated) =
      Example.scattered.types.map (·.unlocated) := rfl
  have symbols : ∀ symbol, symbol ∈ attributedSymbols Example.placed ↔
      symbol ∈ attributedSymbols Example.scattered := by
    intro symbol
    rw [once, twice]
    simp
  obtain ⟨generation, generation', completed, completed', -, order⟩ :=
    run_artifacts_depend {} types symbols
  refine ⟨types, symbols, generation, generation', completed, completed', order ?_⟩
  rw [once, twice]
  decide

end ComponentPasses

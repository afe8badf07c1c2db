import ComponentPasses.Proofs.Candidates
import ComponentPasses.Proofs.Settings.Reading

/-!
# What is selected

The candidates of a compilation are fixed by single nodes, and this module says by which.

**Classes.**  A class declaration **declares** a type if an attribute is written on it and its
symbol leads to the type.  The candidate classes are the types that opt in, do not opt out, and are
declared by some node, however deep.  As a symbol leads to one type, and to a type of that metadata
name, all declarations of a type are of one symbol; so each class comes once, and in the order of
the first declarations (`pairwise_declared`).  A declaration without an attribute is none of them,
wherever it stands.

**Routines.**  Each node is a render routine or not by its own shape (`RenderRoutine.IsOf`), so the
routines are those nodes, in their order and each at its own position (`ofNode?_eq_some_iff`).
-/

namespace ComponentPasses

open Snapshot (Compilation DeclaredType Node given?)

variable {settings : Settings} {snapshot : Snapshot}

/-! ## 1. Classes -/

/-- Whether a node is a class declaration with a written attribute that declares a type. -/
def declares (compilation : Compilation) (type : DeclaredType) (node : Node) : Bool :=
  match node with
  | .member (.classDeclaration _ _ (_ :: _) _ _) => compilation.declaredType? node = some type
  | _ => false

theorem declares_iff_exists {compilation : Compilation} {type : DeclaredType} {node : Node} :
    declares compilation type node = true ↔
      ∃ symbol, attributedSymbol? node = some symbol ∧ compilation.type? symbol = some type := by
  match node with
  | .member (.classDeclaration _ symbol (_ :: _) _ _) =>
    simp [declares, attributedSymbol?, Compilation.declaredType?, Option.bind_eq_some_iff]
  | .member (.classDeclaration _ _ [] _ _) | .member (.methodDeclaration ..) | .statement _
  | .expression _ => simp [declares, attributedSymbol?]

/-- A type that is known by its metadata name is declared under that. -/
theorem declares_iff {type : DeclaredType} {node : Node}
    (known : (Compilation.ofSnapshot snapshot).type? type.metadataName = some type) :
    declares (.ofSnapshot snapshot) type node = true ↔
      attributedSymbol? node = some type.metadataName := by
  rw [declares_iff_exists]
  constructor
  · rintro ⟨symbol, attributed, found⟩
    rw [attributed, Snapshot.metadataName_of_type? found]
  · exact fun attributed => ⟨_, attributed, known⟩

/-- The settings opt a type in and do not opt it out. -/
theorem isCandidateClass_iff {type : DeclaredType} :
    isCandidateClass settings type = true ↔
      type.name ≠ settings.importsClassName ∧
        (∃ marker ∈ type.attributes, marker.fullName ∈ settings.inclusionMarkers) ∧
        ¬ ∃ marker ∈ type.attributes, marker.fullName ∈ settings.exclusionMarkers := by
  simp [isCandidateClass, DeclaredType.hasAttribute, and_assoc]

/-- A type is a candidate class exactly if it is declared and the settings opt it in. -/
theorem mem_classes_iff {type : DeclaredType} :
    type ∈ (Candidates.collect settings (.ofSnapshot snapshot)).classes ↔
      (∃ node ∈ snapshot.nodes, declares (.ofSnapshot snapshot) type node = true) ∧
        isCandidateClass settings type = true := by
  simp only [classes_collect, List.mem_filterMap, List.mem_eraseDups, attributedSymbols,
    candidateOfSymbol?, Option.filter_eq_some_iff, declares_iff_exists]
  constructor
  · rintro ⟨symbol, ⟨node, present, attributed⟩, found, candidate⟩
    exact ⟨⟨node, present, symbol, attributed, found⟩, candidate⟩
  · rintro ⟨⟨node, present, symbol, attributed, found⟩, candidate⟩
    exact ⟨symbol, ⟨node, present, attributed⟩, found, candidate⟩

/-- Candidate classes come in the order in which they are first declared. -/
theorem pairwise_declared (settings : Settings) (snapshot : Snapshot) :
    (Candidates.collect settings (.ofSnapshot snapshot)).classes.Pairwise fun earlier later =>
      snapshot.nodes.findIdx (declares (.ofSnapshot snapshot) earlier) <
        snapshot.nodes.findIdx (declares (.ofSnapshot snapshot) later) := by
  rw [classes_collect]
  refine List.pairwise_filterMap.mpr ((pairwise_findIdx_eraseDups attributedSymbol?
    snapshot.nodes).imp ?_)
  intro symbol symbol' first type candidate type' candidate'
  have place : ∀ {symbol : String} {type : DeclaredType},
      candidateOfSymbol? settings (.ofSnapshot snapshot) symbol = some type →
        declares (.ofSnapshot snapshot) type = (attributedSymbol? · == some symbol) := by
    intro symbol type candidate
    obtain ⟨found, -⟩ := Option.filter_eq_some_iff.mp candidate
    obtain rfl := Snapshot.metadataName_of_type? found
    funext node
    rw [Bool.eq_iff_iff, declares_iff found, beq_iff_eq]
  rwa [place candidate, place candidate']

/-! ## 2. Routines -/

/-- What makes a node a given render routine: it is a method with the name of the render method and
a body, or an anonymous function with a block body and one parameter in whose name a builder marker
stands.  The routine has the statements of the body. -/
inductive RenderRoutine.IsOf (settings : Settings) (routine : RenderRoutine) : Node → Prop
  | method {symbol : Option String} {parameters : List String}
      (named : routine.name = (given? symbol).getD settings.renderMethodName) :
      IsOf settings routine (.member (.methodDeclaration settings.renderMethodName symbol parameters
        (some routine.statements) routine.location))
  | lambda {parameter marker : String} {expressionBody : Option Snapshot.Expression}
      (listed : marker ∈ settings.builderMarkers) (inside : marker.toList <:+: parameter.toList)
      (named : routine.name = lambdaName parameter routine.location) :
      IsOf settings routine (.expression (.lambda [parameter] (some routine.statements)
        expressionBody routine.location))

/-- A node is selected as a routine exactly if it is one, and the routine begins two positions on,
where the first statement of the body stands. -/
theorem ofNode?_eq_some_iff {node : Node} {position : Nat} {routine : RenderRoutine} :
    RenderRoutine.ofNode? settings (node, position) = some routine ↔
      routine.IsOf settings node ∧ routine.position = position + 2 := by
  constructor
  · intro selected
    unfold RenderRoutine.ofNode? at selected
    split at selected
    · rename_i same
      cases same
      split at selected
      · rename_i named
        subst named
        cases selected
        exact ⟨.method rfl, rfl⟩
      · cases selected
    · rename_i same
      cases same
      split at selected
      · rename_i builds
        cases selected
        obtain ⟨marker, listed, inside⟩ := Settings.isBuilderName_iff.mp builds
        exact ⟨.lambda listed inside rfl, rfl⟩
      · cases selected
    · cases selected
  · rintro ⟨routineOf, begins⟩
    cases routineOf with
    | method named =>
      rw [RenderRoutine.ofNode?, if_pos rfl, ← named, ← begins]
    | @lambda parameter marker _ listed inside named =>
      have builds : isRenderLambda settings [parameter] (some routine.statements) = true :=
        Settings.isBuilderName_iff.mpr ⟨marker, listed, inside⟩
      rw [RenderRoutine.ofNode?, if_pos builds, ← named, ← begins]

theorem mem_routines_iff {routine : RenderRoutine} :
    routine ∈ (Candidates.collect settings (.ofSnapshot snapshot)).routines ↔
      ∃ (position : Nat) (node : Node), snapshot.nodes[position]? = some node ∧
        routine.IsOf settings node ∧ routine.position = position + 2 := by
  have placed : (Candidates.collect settings (.ofSnapshot snapshot)).routines =
      snapshot.nodes.zipIdx.filterMap (RenderRoutine.ofNode? settings) := rfl
  simp only [placed, List.mem_filterMap, Prod.exists, List.mem_zipIdx_iff_getElem?,
    ofNode?_eq_some_iff]
  exact exists_comm

/-- The routines come in the order of their nodes, and no node is two of them. -/
theorem pairwise_routines (settings : Settings) (snapshot : Snapshot) :
    (Candidates.collect settings (.ofSnapshot snapshot)).routines.Pairwise fun earlier later =>
      earlier.position < later.position := by
  have increasing : snapshot.nodes.zipIdx.Pairwise fun earlier later => earlier.2 < later.2 := by
    rw [← List.pairwise_map, List.zipIdx_map_snd]
    exact List.pairwise_lt_range'
  refine List.pairwise_filterMap.mpr (increasing.imp ?_)
  intro placed placed' before routine selected routine' selected'
  have begins := (ofNode?_eq_some_iff.mp selected).2
  have begins' := (ofNode?_eq_some_iff.mp selected').2
  omega

/-! ## 3. The candidates -/

/-- **What is selected.**  The candidate classes are the types that some class declaration with a
written attribute declares, that have another name than the imports class, an inclusion marker and
no exclusion marker; no two share a metadata name, and they come in the order of their first such
declarations.  The render routines are the nodes that are one by their shape, with the statements of
their bodies, in the order of the nodes and each node once. -/
theorem candidates_selected (settings : Settings) (snapshot : Snapshot) :
    let compilation := Compilation.ofSnapshot snapshot
    let candidates := Candidates.collect settings compilation
    (∀ type, type ∈ candidates.classes ↔
      (∃ node ∈ snapshot.nodes, declares compilation type node = true) ∧
        type.name ≠ settings.importsClassName ∧
        (∃ marker ∈ type.attributes, marker.fullName ∈ settings.inclusionMarkers) ∧
        ¬ ∃ marker ∈ type.attributes, marker.fullName ∈ settings.exclusionMarkers) ∧
      (candidates.classes.map (·.metadataName)).Nodup ∧
      (candidates.classes.Pairwise fun earlier later =>
        snapshot.nodes.findIdx (declares compilation earlier) <
          snapshot.nodes.findIdx (declares compilation later)) ∧
      (∀ routine, routine ∈ candidates.routines ↔
        ∃ (position : Nat) (node : Node), snapshot.nodes[position]? = some node ∧
          routine.IsOf settings node ∧ routine.position = position + 2) ∧
      candidates.routines.Pairwise fun earlier later => earlier.position < later.position := by
  refine ⟨fun type => ?classes, nodup_metadataName_collect _ _, pairwise_declared _ _,
    fun routine => mem_routines_iff, pairwise_routines _ _⟩
  case classes => rw [mem_classes_iff, isCandidateClass_iff]

end ComponentPasses

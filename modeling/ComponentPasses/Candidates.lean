import ComponentPasses.Settings.Basic
import ComponentPasses.Snapshot.Compilation

/-!
# Candidates

One look at all nodes selects what the passes work on:

* the **candidate classes** for dispatch generation: types that opt in and do not opt out, and that
  some class declaration with a written attribute declares; each once, in the order of the first
  such declaration;
* the **render routines** for loop analysis: methods with the name of the render method and a body,
  and anonymous functions with a block body and a single parameter that denotes a builder.
-/

namespace ComponentPasses

open Snapshot (Compilation DeclaredType Location Node Statement)

/-! ## 1. Candidate classes -/

/-- Whether a type opts in and does not opt out. -/
def isCandidateClass (settings : Settings) (type : DeclaredType) : Bool :=
  type.name ≠ settings.importsClassName &&
    type.hasAttribute settings.inclusionMarkers && !type.hasAttribute settings.exclusionMarkers

/-- The candidate class that a node declares: only a class declaration with a written attribute
counts. -/
def candidateOf? (settings : Settings) (compilation : Compilation) (node : Node) :
    Option DeclaredType :=
  match node with
  | .member (.classDeclaration _ _ (_ :: _) _ _) =>
    (compilation.declaredType? node).filter (isCandidateClass settings)
  | _ => none

/-- Keeps the first type of each metadata name that has not been met. -/
def distinctTypes (seen : List String) : List DeclaredType → List DeclaredType
  | [] => []
  | type :: rest =>
    if seen.contains type.metadataName then distinctTypes seen rest
    else type :: distinctTypes (type.metadataName :: seen) rest

/-! ## 2. Render routines -/

/-- A body that builds a render tree: its statements and the position of the first of them. -/
structure RenderRoutine where
  name : String
  location : Location
  statements : List Statement
  position : Nat
deriving Inhabited

/-- Whether the parameters and body are those of an anonymous function that builds a render tree. -/
def isRenderLambda (settings : Settings) (parameters : List String)
    (body : Option (List Statement)) : Bool :=
  match parameters, body with
  | [parameter], some _ => settings.isBuilderName parameter
  | _, _ => false

/-- The name of an anonymous function in reports. -/
def lambdaName (parameter : String) (location : Location) : String :=
  "(" ++ parameter ++ ") => \x7b \x7d at " ++ location.text

/-- The render routine that a placed node is, if it is one.  Its statements begin two positions
on: its body is its first part, and they are the parts of the body. -/
def RenderRoutine.ofNode? (settings : Settings) : Node × Nat → Option RenderRoutine
  | (.member (.methodDeclaration name symbol _ (some statements) location), position) =>
    if name = settings.renderMethodName then
      some ⟨(Snapshot.given? symbol).getD name, location, statements, position + 2⟩
    else none
  | (.expression (.lambda [parameter] (some statements) _ location), position) =>
    if isRenderLambda settings [parameter] (some statements) then
      some ⟨lambdaName parameter location, location, statements, position + 2⟩
    else none
  | _ => none

/-! ## 3. Collection -/

/-- What the passes work on. -/
structure Candidates where
  classes : List DeclaredType
  routines : List RenderRoutine

/-- Selects the candidates of a compilation. -/
def Candidates.collect (settings : Settings) (compilation : Compilation) : Candidates where
  classes :=
    distinctTypes [] (compilation.snapshot.nodes.filterMap (candidateOf? settings compilation))
  routines := compilation.placedNodes.filterMap (RenderRoutine.ofNode? settings)

end ComponentPasses

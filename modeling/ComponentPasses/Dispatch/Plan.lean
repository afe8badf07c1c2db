import ComponentPasses.Hierarchy
import ComponentPasses.Parameter
import ComponentPasses.Source.Names

/-!
# Dispatch plans

A dispatcher sets the property that a parameter's name names.  It has two tiers: the first matches
the exact name, the second the name in lower case.  A **plan** holds all that its source text needs,
already checked and escaped: one arm per parameter in each tier, in the same order.

Making a plan is where everything from outside is checked: each parameter's name and then its type,
in order; then the namespace, the class name and the type parameters.  The first refusal wins.
-/

namespace ComponentPasses.Dispatch

open Snapshot (TypeKind)
open Source

/-- What the generated source says about the class itself. -/
structure ClassInfo where
  name : String
  enclosing : String
  kind : TypeKind
  typeParameters : List String
  hierarchy : List String
deriving DecidableEq, Repr, Inhabited

namespace ClassInfo

/-- The class's name inside its namespace. -/
def qualifiedName (info : ClassInfo) : String :=
  Snapshot.qualify info.enclosing info.name

/-- The qualified name with the number of type parameters, after which artifacts are named. -/
def metadataName (info : ClassInfo) : String :=
  Snapshot.withArity info.qualifiedName info.typeParameters.length

/-- What a hierarchy says about its most derived type. -/
def ofHierarchy (hierarchy : Hierarchy) : ClassInfo where
  name := hierarchy.type.name
  enclosing := hierarchy.type.enclosing
  kind := hierarchy.type.kind
  typeParameters := hierarchy.type.typeParameters
  hierarchy := hierarchy.chain.map (·.qualifiedName)

end ClassInfo

/-- One case of a tier: where the label matches, the target is set to the value cast to the type. -/
structure Arm where
  label : String
  target : String
  castType : String
deriving DecidableEq, Repr, Inhabited

/-- All that the source text of a dispatcher needs, checked and escaped. -/
structure Plan where
  enclosing : String
  keyword : String
  typeName : String
  typeParameters : List String
  artifactStem : String
  exactArms : List Arm
  loweredArms : List Arm
deriving DecidableEq, Repr, Inhabited

namespace Plan

/-- The line that opens the class. -/
def typeHeader (plan : Plan) : String :=
  let parameters :=
    if plan.typeParameters = [] then "" else "<" ++ ", ".intercalate plan.typeParameters ++ ">"
  "public partial " ++ plan.keyword ++ " " ++ plan.typeName ++ parameters

/-- The name of the artifact that overrides the parameter setter. -/
def overrideName (plan : Plan) : String :=
  plan.artifactStem ++ "_override"

/-- The name of the artifact that holds the dispatcher. -/
def implementationName (plan : Plan) : String :=
  plan.artifactStem ++ "_implementation"

/-- The arms of a parameter in the exact and in the lowered tier. -/
def armsOf (parameter : Parameter) : Except EmitError (Arm × Arm) := do
  let target ← escapeIdentifier parameter.name
  let castType ← escapeType parameter.type
  pure (⟨stringLiteral parameter.name, target, castType⟩,
    ⟨stringLiteral parameter.loweredName, target, castType⟩)

/-- Checks and escapes everything that goes into the source of a class's dispatcher. -/
def build (info : ClassInfo) (parameters : List Parameter) : Except EmitError Plan := do
  let arms ← parameters.mapM armsOf
  let enclosing ← if info.enclosing = "" then pure "" else escapeNamespace info.enclosing
  let typeName ← escapeIdentifier info.name
  let typeParameters ← info.typeParameters.mapM escapeIdentifier
  pure {
    enclosing, typeName, typeParameters
    keyword := info.kind.keyword
    artifactStem := info.metadataName
    exactArms := arms.map (·.1)
    loweredArms := arms.map (·.2) }

end Plan

end ComponentPasses.Dispatch

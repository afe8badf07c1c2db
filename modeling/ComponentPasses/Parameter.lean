import ComponentPasses.Settings.Basic
import ComponentPasses.Snapshot.DeclaredType
import ComponentPasses.Text.Lowercase

/-!
# Component parameters

The members of a class are the properties of its whole hierarchy: chain order first, declaration
order within a type.  A property that is declared again further up is a member of its own.  The
**parameters** are the members that can be set and carry a parameter marker.
-/

namespace ComponentPasses

open Snapshot (DeclaredType Property Location)

/-- A property together with the qualified name of the type that declares it. -/
structure InheritedProperty where
  property : Property
  declaringType : String
deriving DecidableEq, Repr, Inhabited

/-- The members of a chain of types, most derived type first. -/
def members (chain : List DeclaredType) : List InheritedProperty :=
  chain.flatMap fun type => type.properties.map fun property => ⟨property, type.qualifiedName⟩

/-- A member that can be set and carries a parameter marker. -/
structure Parameter where
  member : InheritedProperty
  marker : String
deriving DecidableEq, Repr, Inhabited

namespace Parameter

/-- The parameter's name as declared. -/
def name (parameter : Parameter) : String :=
  parameter.member.property.name

/-- The display string of the parameter's type. -/
def type (parameter : Parameter) : String :=
  parameter.member.property.type

/-- The parameter's name in lower case, by which it is found whatever the case. -/
def loweredName (parameter : Parameter) : String :=
  Text.lowercase parameter.name

/-- Where the parameter is declared. -/
def locations (parameter : Parameter) : List Location :=
  parameter.member.property.locations

/-- The parameter that a member is, if it is one.  The marker is the first of the settings' markers
that the member carries. -/
def ofMember? (settings : Settings) (member : InheritedProperty) : Option Parameter :=
  if member.property.hasSetter then
    (settings.parameterMarkers.find? fun marker =>
      member.property.attributeNames.contains marker).map fun marker => ⟨member, marker⟩
  else none

/-- The parameters of a chain of types. -/
def ofChain (settings : Settings) (chain : List DeclaredType) : List Parameter :=
  (members chain).filterMap (ofMember? settings)

end Parameter

end ComponentPasses

import ComponentPasses.Snapshot.Location

/-!
# Declared types

The semantic half of a snapshot: the types a compilation declares, their properties, and the
attributes on both, all resolved by the host compiler.

A type has two names.  Its **qualified name** puts the namespace in front.  Its **metadata name**
adds the number of type parameters after a grave accent, so that a generic type and a plain one of
the same name stay apart; types are looked up by it.
-/

namespace ComponentPasses.Snapshot

/-- A name inside a namespace; the empty namespace is the global one and is not written. -/
def qualify (enclosing name : String) : String :=
  if enclosing = "" then name else enclosing ++ "." ++ name

/-- A name with the number of its type parameters, if it has any. -/
def withArity (name : String) (arity : Nat) : String :=
  if arity = 0 then name else name ++ "`" ++ toString arity

/-- An attribute class as it is applied to a type or property. -/
structure AttributeClass where
  name : String
  enclosing : String := ""
deriving DecidableEq, Repr, Inhabited

/-- The attribute class's name inside its namespace. -/
def AttributeClass.fullName (marker : AttributeClass) : String :=
  qualify marker.enclosing marker.name

/-- A property that a type declares. -/
structure Property where
  name : String
  type : String
  hasSetter : Bool := true
  attributes : List AttributeClass := []
  locations : List Location := []
deriving DecidableEq, Repr, Inhabited

/-- The unqualified names of a property's attributes. -/
def Property.attributeNames (property : Property) : List String :=
  property.attributes.map (·.name)

/-- What is declared: a class, an interface or a struct. -/
inductive TypeKind
  | classKind
  | interfaceKind
  | structKind
deriving DecidableEq, Repr, Inhabited

/-- The keyword that declares a type of the kind. -/
def TypeKind.keyword : TypeKind → String
  | .classKind => "class"
  | .interfaceKind => "interface"
  | .structKind => "struct"

/-- The kinds by their keywords, in the order messages list them. -/
def TypeKind.choices : List (String × TypeKind) :=
  [TypeKind.classKind, .interfaceKind, .structKind].map fun kind => (kind.keyword, kind)

/-- A type that the compilation declares. -/
structure DeclaredType where
  name : String
  enclosing : String := ""
  kind : TypeKind := .classKind
  typeParameters : List String := []
  base? : Option String := none
  attributes : List AttributeClass := []
  properties : List Property := []
  locations : List Location := []
deriving DecidableEq, Repr, Inhabited

namespace DeclaredType

/-- The type's name inside its namespace. -/
def qualifiedName (type : DeclaredType) : String :=
  qualify type.enclosing type.name

/-- The name by which the type is looked up. -/
def metadataName (type : DeclaredType) : String :=
  withArity type.qualifiedName type.typeParameters.length

/-- Whether one of the type's attributes has one of the full names. -/
def hasAttribute (type : DeclaredType) (fullNames : List String) : Bool :=
  type.attributes.any fun marker => fullNames.contains marker.fullName

end DeclaredType

end ComponentPasses.Snapshot

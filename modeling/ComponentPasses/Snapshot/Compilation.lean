import ComponentPasses.Data.Entries
import ComponentPasses.Snapshot.Basic

/-!
# Compilations

A compilation is a snapshot with two indexes: types by metadata name, and methods by symbol.  Each
index keeps the first declaration of a key, so a later one of the same key changes no answer.

The passes ask four things of it: all nodes in order with their positions, the type a class
declaration declares, the type of a metadata name, and the method a call goes to.
-/

namespace ComponentPasses.Snapshot

open Data (Entries)

/-- A method declaration together with its position. -/
structure Method where
  position : Nat
  name : String
  symbol : Option String
  body : Option (List Statement)
deriving Inhabited

/-- A snapshot with its indexes. -/
structure Compilation where
  snapshot : Snapshot
  types : Entries DeclaredType
  methods : Entries Method

/-- A symbol that is there and not empty. -/
def given? (symbol : Option String) : Option String :=
  symbol.filter (· ≠ "")

/-- What a method is known by: its symbol, or its name where it has none. -/
def Method.identity (method : Method) : String :=
  (given? method.symbol).getD method.name

/-- The method that a placed node declares, if it declares one. -/
def Method.ofNode? : Node × Nat → Option Method
  | (.member (.methodDeclaration name symbol _ body _), position) =>
    some ⟨position, name, symbol, body⟩
  | _ => none

namespace Compilation

/-- Every type by its metadata name, the first of a name kept. -/
def indexTypes (types : List DeclaredType) : Entries DeclaredType :=
  types.foldl (fun index type => index.putNew type.metadataName type) []

/-- Every method that has a symbol by its symbol, the first of a symbol kept. -/
def indexMethods (methods : List Method) : Entries Method :=
  methods.foldl
    (fun index method =>
      match given? method.symbol with
      | some symbol => index.putNew symbol method
      | none => index)
    []

/-- Builds the indexes of a snapshot. -/
def ofSnapshot (snapshot : Snapshot) : Compilation where
  snapshot := snapshot
  types := indexTypes snapshot.types
  methods := indexMethods (snapshot.nodes.zipIdx.filterMap Method.ofNode?)

/-- Every node in pre-order, with its position. -/
def placedNodes (compilation : Compilation) : List (Node × Nat) :=
  compilation.snapshot.nodes.zipIdx

/-- The type of a metadata name. -/
def type? (compilation : Compilation) (metadataName : String) : Option DeclaredType :=
  compilation.types.get? metadataName

/-- The type that a class declaration declares. -/
def declaredType? (compilation : Compilation) : Node → Option DeclaredType
  | .member (.classDeclaration _ symbol _ _ _) => (given? symbol).bind compilation.type?
  | _ => none

/-- The first declaration of the method that a call was resolved to. -/
def callee? (compilation : Compilation) (symbol : Option String) : Option Method :=
  (given? symbol).bind compilation.methods.get?

end Compilation

end ComponentPasses.Snapshot

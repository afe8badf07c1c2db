import ComponentPasses.Snapshot.Location
import ComponentPasses.Text.Blank

/-!
# Syntax trees

The syntactic half of a snapshot.  Only what the passes look at has a shape of its own: class and
method declarations, loops, statements that are a single expression, calls, and anonymous
functions.  Any other statement is `Statement.other` and keeps what it contains, so that nothing
nested in it is lost; any other expression is a literal.

A block is a statement like the rest.  Where the source allows nothing but a block (the body of a
method, the block body of an anonymous function), the tree holds the block's statements directly.
-/

namespace ComponentPasses.Snapshot

/-- The two kinds of loop. -/
inductive LoopKind
  | counting
  | iterating
deriving DecidableEq, Repr, Inhabited

/-- The keyword that introduces a loop of the kind. -/
def LoopKind.keyword : LoopKind → String
  | .counting => "for"
  | .iterating => "foreach"

mutual

/-- An expression. -/
inductive Expression
  /-- A call.  The receiver is the text left of the last member access, none for a bare name; the
  symbol is the method the host compiler resolved the call to. -/
  | invocation (receiver : Option String) (name : String) (arguments : List Expression)
      (symbol : Option String) (location : Location)
  | identifier (name : String)
  /-- An anonymous function, with a block body, an expression body, or none. -/
  | lambda (parameters : List String) (body : Option (List Statement))
      (expressionBody : Option Expression) (location : Location)
  | literal (text : String)

/-- A statement. -/
inductive Statement
  | block (statements : List Statement)
  | expression (expression : Expression)
  | loop (kind : LoopKind) (keyword : Location) (body : Statement)
  | other (text : String) (expressions : List Expression) (statements : List Statement)

end

/-- A member of a file or class: a class or method declaration. -/
inductive Member
  /-- A class declaration.  The attributes are the names written in the source; the symbol is the
  metadata name of the declared type. -/
  | classDeclaration (name : String) (symbol : Option String) (attributes : List String)
      (members : List Member) (location : Location)
  | methodDeclaration (name : String) (symbol : Option String) (parameters : List String)
      (body : Option (List Statement)) (location : Location)

instance : Inhabited Expression := ⟨.literal ""⟩

instance : Inhabited Statement := ⟨.block []⟩

instance : Inhabited Member := ⟨.classDeclaration "" none [] [] {}⟩

/-- One source file. -/
structure SourceFile where
  path : String := ""
  members : List Member := []
deriving Inhabited

/-- The name of a call without its type arguments. -/
def simpleName (name : String) : String :=
  String.ofList (Text.trimBlanks (name.toList.takeWhile (· != '<')))

end ComponentPasses.Snapshot

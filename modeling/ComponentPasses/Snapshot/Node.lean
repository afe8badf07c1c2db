import ComponentPasses.Snapshot.Syntax

/-!
# The nodes of a forest

Every declaration, statement and expression is a node.  The nodes of a forest are listed in
**pre-order**: a node, then the nodes of each of its parts in the order the source has them; the
block body of an anonymous function comes before its expression body, and the expressions of an
other statement before its statements.  Here pre-order is a recursion over trees; it measures the
traversal that lists the nodes.

A node's **position** is its place in this list.  Positions tell apart nodes that look the same,
and need not be stored: the first part of the node at position `p` stands at `p + 1`, and each
later part after all the nodes of the parts before it.  So `count`, the number of nodes of a part,
is all that a walk needs to know where it is.
-/

namespace ComponentPasses.Snapshot

/-- A declaration, statement or expression. -/
inductive Node
  | member (member : Member)
  | statement (statement : Statement)
  | expression (expression : Expression)
deriving Inhabited

/-! ## 1. Pre-order -/

mutual

/-- An expression and all nodes inside it. -/
def Expression.nodes : Expression → List Node
  | .invocation receiver name arguments symbol location =>
    .expression (.invocation receiver name arguments symbol location) ::
      Expression.nodesOf arguments
  | .identifier name => [.expression (.identifier name)]
  | .lambda parameters body expressionBody location =>
    .expression (.lambda parameters body expressionBody location) ::
      (Statement.nodesOfBody body ++ Expression.nodesOfOption expressionBody)
  | .literal text => [.expression (.literal text)]

/-- The nodes of expressions, one after the other. -/
def Expression.nodesOf : List Expression → List Node
  | [] => []
  | e :: rest => e.nodes ++ Expression.nodesOf rest

/-- The nodes of an expression that may be absent. -/
def Expression.nodesOfOption : Option Expression → List Node
  | none => []
  | some e => e.nodes

/-- A statement and all nodes inside it. -/
def Statement.nodes : Statement → List Node
  | .block statements => .statement (.block statements) :: Statement.nodesOf statements
  | .expression e => .statement (.expression e) :: e.nodes
  | .loop kind keyword body => .statement (.loop kind keyword body) :: body.nodes
  | .other text expressions statements =>
    .statement (.other text expressions statements) ::
      (Expression.nodesOf expressions ++ Statement.nodesOf statements)

/-- The nodes of statements, one after the other. -/
def Statement.nodesOf : List Statement → List Node
  | [] => []
  | s :: rest => s.nodes ++ Statement.nodesOf rest

/-- The nodes of a block body that may be absent: the block, then its statements. -/
def Statement.nodesOfBody : Option (List Statement) → List Node
  | none => []
  | some statements => .statement (.block statements) :: Statement.nodesOf statements

end

mutual

/-- A declaration and all nodes inside it. -/
def Member.nodes : Member → List Node
  | .classDeclaration name symbol attributes members location =>
    .member (.classDeclaration name symbol attributes members location) :: Member.nodesOf members
  | .methodDeclaration name symbol parameters body location =>
    .member (.methodDeclaration name symbol parameters body location) :: Statement.nodesOfBody body

/-- The nodes of declarations, one after the other. -/
def Member.nodesOf : List Member → List Node
  | [] => []
  | m :: rest => m.nodes ++ Member.nodesOf rest

end

/-- The nodes of a file. -/
def SourceFile.nodes (file : SourceFile) : List Node :=
  Member.nodesOf file.members

/-! ## 2. Counting -/

mutual

/-- The number of nodes of an expression. -/
def Expression.count : Expression → Nat
  | .invocation _ _ arguments _ _ => 1 + Expression.countOf arguments
  | .identifier _ => 1
  | .lambda _ body expressionBody _ =>
    1 + (Statement.countOfBody body + Expression.countOfOption expressionBody)
  | .literal _ => 1

/-- The number of nodes of expressions. -/
def Expression.countOf : List Expression → Nat
  | [] => 0
  | e :: rest => e.count + Expression.countOf rest

/-- The number of nodes of an expression that may be absent. -/
def Expression.countOfOption : Option Expression → Nat
  | none => 0
  | some e => e.count

/-- The number of nodes of a statement. -/
def Statement.count : Statement → Nat
  | .block statements => 1 + Statement.countOf statements
  | .expression e => 1 + e.count
  | .loop _ _ body => 1 + body.count
  | .other _ expressions statements =>
    1 + (Expression.countOf expressions + Statement.countOf statements)

/-- The number of nodes of statements. -/
def Statement.countOf : List Statement → Nat
  | [] => 0
  | s :: rest => s.count + Statement.countOf rest

/-- The number of nodes of a block body that may be absent. -/
def Statement.countOfBody : Option (List Statement) → Nat
  | none => 0
  | some statements => 1 + Statement.countOf statements

end

/-! ## 3. What a node is called -/

namespace Node

/-- The kind of a node, by the name the snapshot format gives it. -/
def kind : Node → String
  | .member (.classDeclaration ..) => "class"
  | .member (.methodDeclaration ..) => "method"
  | .statement (.block ..) => "block"
  | .statement (.expression ..) => "expression"
  | .statement (.loop loopKind _ _) => loopKind.keyword
  | .statement (.other ..) => "other"
  | .expression (.invocation ..) => "invocation"
  | .expression (.identifier ..) => "identifier"
  | .expression (.lambda ..) => "lambda"
  | .expression (.literal ..) => "literal"

/-- The name or text a node carries, if it has one. -/
def label? : Node → Option String
  | .member (.classDeclaration name ..) => some name
  | .member (.methodDeclaration name ..) => some name
  | .statement (.other text ..) => some text
  | .expression (.invocation _ name ..) => some name
  | .expression (.identifier name) => some name
  | .expression (.literal text) => some text
  | _ => none

end Node

end ComponentPasses.Snapshot

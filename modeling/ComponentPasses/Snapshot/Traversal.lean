import ComponentPasses.Snapshot.Node

/-!
# The traversal of a file

Nodes are deeply nested, so a file is not walked by recursion but with a **stack**: the topmost node
is taken off and its parts are put there instead, the last of them first, so that the first one is
on top.  What the stack holds is thus always what is still to come, the next node on top.

The traversal ends because a node is replaced by its parts, which have one node less between them.
-/

namespace ComponentPasses.Snapshot

/-! ## 1. Parts -/

/-- A node and all nodes inside it. -/
def Node.nodes : Node → List Node
  | .member m => m.nodes
  | .statement s => s.nodes
  | .expression e => e.nodes

/-- The node of a block body, if there is one. -/
def bodyPart (body : Option (List Statement)) : List Node :=
  body.toList.map fun statements => .statement (.block statements)

/-- The parts of a node, in the order the source has them. -/
def Node.parts : Node → List Node
  | .member (.classDeclaration _ _ _ members _) => members.map .member
  | .member (.methodDeclaration _ _ _ body _) => bodyPart body
  | .statement (.block statements) => statements.map .statement
  | .statement (.expression e) => [.expression e]
  | .statement (.loop _ _ body) => [.statement body]
  | .statement (.other _ expressions statements) =>
    expressions.map .expression ++ statements.map .statement
  | .expression (.invocation _ _ arguments _ _) => arguments.map .expression
  | .expression (.identifier _) => []
  | .expression (.lambda _ body expressionBody _) =>
    bodyPart body ++ expressionBody.toList.map .expression
  | .expression (.literal _) => []

/-- The parts of a file: its members. -/
def SourceFile.parts (file : SourceFile) : List Node :=
  file.members.map .member

theorem Expression.nodesOf_eq (es : List Expression) :
    Expression.nodesOf es = (es.map .expression).flatMap Node.nodes := by
  induction es with
  | nil => rfl
  | cons e rest ih =>
    rw [Expression.nodesOf, ih, List.map_cons, List.flatMap_cons]
    rfl

theorem Statement.nodesOf_eq (ss : List Statement) :
    Statement.nodesOf ss = (ss.map .statement).flatMap Node.nodes := by
  induction ss with
  | nil => rfl
  | cons s rest ih =>
    rw [Statement.nodesOf, ih, List.map_cons, List.flatMap_cons]
    rfl

theorem Member.nodesOf_eq (ms : List Member) :
    Member.nodesOf ms = (ms.map .member).flatMap Node.nodes := by
  induction ms with
  | nil => rfl
  | cons m rest ih =>
    rw [Member.nodesOf, ih, List.map_cons, List.flatMap_cons]
    rfl

theorem Statement.nodesOfBody_eq (body : Option (List Statement)) :
    Statement.nodesOfBody body = (bodyPart body).flatMap Node.nodes := by
  cases body with
  | none => rfl
  | some statements => exact (List.append_nil _).symm

theorem Expression.nodesOfOption_eq (e : Option Expression) :
    Expression.nodesOfOption e = (e.toList.map .expression).flatMap Node.nodes := by
  cases e with
  | none => rfl
  | some e => exact (List.append_nil _).symm

/-- Pre-order: a node comes first, and then its parts follow one after the other. -/
theorem Node.nodes_eq (node : Node) : node.nodes = node :: node.parts.flatMap Node.nodes := by
  match node with
  | .member (.classDeclaration ..) =>
    rw [Node.nodes, Member.nodes, Member.nodesOf_eq, Node.parts]
  | .member (.methodDeclaration ..) =>
    rw [Node.nodes, Member.nodes, Statement.nodesOfBody_eq, Node.parts]
  | .statement (.block _) =>
    rw [Node.nodes, Statement.nodes, Statement.nodesOf_eq, Node.parts]
  | .statement (.expression _) | .statement (.loop ..) =>
    rw [Node.nodes, Statement.nodes, Node.parts, List.flatMap_singleton, Node.nodes]
  | .statement (.other ..) =>
    rw [Node.nodes, Statement.nodes, Expression.nodesOf_eq, Statement.nodesOf_eq, Node.parts,
      List.flatMap_append]
  | .expression (.invocation ..) =>
    rw [Node.nodes, Expression.nodes, Expression.nodesOf_eq, Node.parts]
  | .expression (.lambda ..) =>
    rw [Node.nodes, Expression.nodes, Statement.nodesOfBody_eq, Expression.nodesOfOption_eq,
      Node.parts, List.flatMap_append]
  | .expression (.identifier _) | .expression (.literal _) => rfl

/-! ## 2. The stack -/

/-- Puts nodes on a stack one after the other, so the last of them comes to lie on top. -/
def pushAll (stack nodes : List Node) : List Node :=
  nodes.foldl (fun stack node => node :: stack) stack

/-- Nodes that are pushed in reverse lie in order. -/
theorem pushAll_reverse (stack nodes : List Node) :
    pushAll stack nodes.reverse = nodes ++ stack := by
  rw [pushAll, List.foldl_reverse]
  exact List.foldr_cons_eq_append'

/-- Takes the topmost node off a stack and puts its parts there instead, until the stack is empty;
yields the nodes in the order they are taken. -/
@[semireducible] -- so that the nodes of a given file can be worked out by evaluation
def unstack : List Node → List Node
  | [] => []
  | node :: stack => node :: unstack (pushAll stack node.parts.reverse)
termination_by stack => (stack.flatMap Node.nodes).length
decreasing_by
  rw [pushAll_reverse, List.flatMap_append, List.flatMap_cons, node.nodes_eq, List.cons_append]
  exact Nat.lt_succ_self _

/-- The nodes of a file, as the traversal meets them. -/
def SourceFile.traversal (file : SourceFile) : List Node :=
  unstack (pushAll [] file.parts.reverse)

end ComponentPasses.Snapshot

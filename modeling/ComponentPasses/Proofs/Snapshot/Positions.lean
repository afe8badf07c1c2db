import ComponentPasses.Proofs.Snapshot.Traversal
import ComponentPasses.Snapshot.Compilation

/-!
# Positions in a forest

The nodes of a forest are listed in pre-order, and a node is known by its place in the list.  This
module proves that the places which the passes work out by counting are the right ones:

* `count` is the number of nodes of a part (`Statement.length_nodesOf`);
* at the position of a node stands the whole subtree of that node (`IsForest`, `isForest_nodes`).

`StandsAt nodes position part` says that a part of a forest begins at a position; it is how walks
keep track of where they are.
-/

namespace ComponentPasses.Snapshot

/-! ## 1. Counting -/

mutual

theorem Expression.length_nodes : ∀ e : Expression, e.nodes.length = e.count
  | .invocation _ _ arguments _ _ => by
    simp only [Expression.nodes, Expression.count, List.length_cons,
      Expression.length_nodesOf arguments]
    omega
  | .identifier _ => rfl
  | .lambda _ body expressionBody _ => by
    simp only [Expression.nodes, Expression.count, List.length_cons, List.length_append,
      Statement.length_nodesOfBody body, Expression.length_nodesOfOption expressionBody]
    omega
  | .literal _ => rfl

theorem Expression.length_nodesOf :
    ∀ es : List Expression, (Expression.nodesOf es).length = Expression.countOf es
  | [] => rfl
  | e :: rest => by
    simp only [Expression.nodesOf, Expression.countOf, List.length_append,
      Expression.length_nodes e, Expression.length_nodesOf rest]

theorem Expression.length_nodesOfOption :
    ∀ e : Option Expression, (Expression.nodesOfOption e).length = Expression.countOfOption e
  | none => rfl
  | some e => Expression.length_nodes e

/-- The count of a statement is the number of its nodes. -/
theorem Statement.length_nodes : ∀ s : Statement, s.nodes.length = s.count
  | .block statements => by
    simp only [Statement.nodes, Statement.count, List.length_cons,
      Statement.length_nodesOf statements]
    omega
  | .expression e => by
    simp only [Statement.nodes, Statement.count, List.length_cons, Expression.length_nodes e]
    omega
  | .loop _ _ body => by
    simp only [Statement.nodes, Statement.count, List.length_cons, Statement.length_nodes body]
    omega
  | .other _ expressions statements => by
    simp only [Statement.nodes, Statement.count, List.length_cons, List.length_append,
      Expression.length_nodesOf expressions, Statement.length_nodesOf statements]
    omega

theorem Statement.length_nodesOf :
    ∀ ss : List Statement, (Statement.nodesOf ss).length = Statement.countOf ss
  | [] => rfl
  | s :: rest => by
    simp only [Statement.nodesOf, Statement.countOf, List.length_append,
      Statement.length_nodes s, Statement.length_nodesOf rest]

theorem Statement.length_nodesOfBody :
    ∀ body : Option (List Statement),
      (Statement.nodesOfBody body).length = Statement.countOfBody body
  | none => rfl
  | some statements => by
    simp only [Statement.nodesOfBody, Statement.countOfBody, List.length_cons,
      Statement.length_nodesOf statements]
    omega

end

/-! ## 2. Parts at positions -/

/-- A part of a forest begins at a position. -/
def StandsAt (nodes : List Node) (position : Nat) (part : List Node) : Prop :=
  part <+: nodes.drop position

section StandsAt

variable {nodes : List Node} {position : Nat} {front back : List Node}

theorem StandsAt.left (h : StandsAt nodes position (front ++ back)) :
    StandsAt nodes position front :=
  (List.prefix_append front back).trans h

/-- The second part stands after all the nodes of the first. -/
theorem StandsAt.right (h : StandsAt nodes position (front ++ back)) :
    StandsAt nodes (position + front.length) back := by
  obtain ⟨after, h⟩ := h
  refine ⟨after, ?_⟩
  rw [← List.drop_drop, ← h, List.append_assoc, List.drop_left]

/-- What stands below a node begins one position on. -/
theorem StandsAt.tail {node : Node} (h : StandsAt nodes position (node :: back)) :
    StandsAt nodes (position + 1) back :=
  (show StandsAt nodes position ([node] ++ back) from h).right

/-- The node that a part begins with is the node at the position. -/
theorem StandsAt.getElem? {node : Node} (h : StandsAt nodes position (node :: back)) :
    nodes[position]? = some node := by
  obtain ⟨after, h⟩ := h
  have := congrArg (·[0]?) h
  simpa using this.symm

end StandsAt

/-! ## 3. Subtrees -/

/-- Each place of the list holds the root of a subtree, which stands there as a whole. -/
def IsForest (nodes : List Node) : Prop :=
  ∀ position node, nodes[position]? = some node → StandsAt nodes position node.nodes

theorem isForest_nil : IsForest [] := by
  intro position node h
  simp at h

theorem IsForest.append {front back : List Node} (hf : IsForest front) (hb : IsForest back) :
    IsForest (front ++ back) := by
  intro position node h
  by_cases inside : position < front.length
  · rw [List.getElem?_append_left inside] at h
    refine (hf position node h).trans ?_
    rw [List.drop_append_of_le_length (Nat.le_of_lt inside)]
    exact List.prefix_append _ _
  · have inside := Nat.le_of_not_lt inside
    rw [List.getElem?_append_right inside] at h
    have stands := hb _ node h
    unfold StandsAt at stands ⊢
    rwa [List.drop_append, List.drop_eq_nil_of_le inside, List.nil_append]

/-- A node in front of the forest of its parts makes a forest. -/
theorem IsForest.cons {node : Node} {parts : List Node} (whole : node.nodes = node :: parts)
    (hp : IsForest parts) : IsForest (node :: parts) := by
  intro position other h
  cases position with
  | zero =>
    obtain rfl : node = other := by simpa using h
    unfold StandsAt
    exact (whole.trans List.drop_zero.symm).symm ▸ List.prefix_refl _
  | succ position =>
    have stands := hp position other (by simpa using h)
    exact stands

mutual

theorem Expression.isForest_nodes : ∀ e : Expression, IsForest e.nodes
  | .invocation _ _ arguments _ _ =>
    IsForest.cons (by simp [Node.nodes, Expression.nodes]) (Expression.isForest_nodesOf arguments)
  | .identifier _ => IsForest.cons (by simp [Node.nodes, Expression.nodes]) isForest_nil
  | .lambda _ body expressionBody _ =>
    IsForest.cons (by simp [Node.nodes, Expression.nodes])
      ((Statement.isForest_nodesOfBody body).append
        (Expression.isForest_nodesOfOption expressionBody))
  | .literal _ => IsForest.cons (by simp [Node.nodes, Expression.nodes]) isForest_nil

theorem Expression.isForest_nodesOf : ∀ es : List Expression, IsForest (Expression.nodesOf es)
  | [] => isForest_nil
  | e :: rest => (Expression.isForest_nodes e).append (Expression.isForest_nodesOf rest)

theorem Expression.isForest_nodesOfOption :
    ∀ e : Option Expression, IsForest (Expression.nodesOfOption e)
  | none => isForest_nil
  | some e => Expression.isForest_nodes e

theorem Statement.isForest_nodes : ∀ s : Statement, IsForest s.nodes
  | .block statements =>
    IsForest.cons (by simp [Node.nodes, Statement.nodes]) (Statement.isForest_nodesOf statements)
  | .expression e =>
    IsForest.cons (by simp [Node.nodes, Statement.nodes]) (Expression.isForest_nodes e)
  | .loop _ _ body =>
    IsForest.cons (by simp [Node.nodes, Statement.nodes]) (Statement.isForest_nodes body)
  | .other _ expressions statements =>
    IsForest.cons (by simp [Node.nodes, Statement.nodes])
      ((Expression.isForest_nodesOf expressions).append (Statement.isForest_nodesOf statements))

theorem Statement.isForest_nodesOf : ∀ ss : List Statement, IsForest (Statement.nodesOf ss)
  | [] => isForest_nil
  | s :: rest => (Statement.isForest_nodes s).append (Statement.isForest_nodesOf rest)

theorem Statement.isForest_nodesOfBody :
    ∀ body : Option (List Statement), IsForest (Statement.nodesOfBody body)
  | none => isForest_nil
  | some statements =>
    IsForest.cons (by simp [Node.nodes, Statement.nodes]) (Statement.isForest_nodesOf statements)

end

mutual

theorem Member.isForest_nodes : ∀ m : Member, IsForest m.nodes
  | .classDeclaration _ _ _ members _ =>
    IsForest.cons (by simp [Node.nodes, Member.nodes]) (Member.isForest_nodesOf members)
  | .methodDeclaration _ _ _ body _ =>
    IsForest.cons (by simp [Node.nodes, Member.nodes]) (Statement.isForest_nodesOfBody body)

theorem Member.isForest_nodesOf : ∀ ms : List Member, IsForest (Member.nodesOf ms)
  | [] => isForest_nil
  | m :: rest => (Member.isForest_nodes m).append (Member.isForest_nodesOf rest)

end

/-- The nodes of a snapshot are a forest: at each position stands a whole subtree. -/
theorem isForest_nodes (snapshot : Snapshot) : IsForest snapshot.nodes := by
  rw [nodes_eq]
  induction snapshot.files with
  | nil => exact isForest_nil
  | cons file rest ih =>
    rw [List.flatMap_cons]
    exact (Member.isForest_nodesOf file.members).append ih

end ComponentPasses.Snapshot

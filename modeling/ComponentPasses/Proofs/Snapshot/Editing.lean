import ComponentPasses.Proofs.Snapshot.Lookup

/-!
# Editing a loop in place

`Snapshot.edit` changes the statement that stands at a position of a snapshot and leaves the rest of
the forest as it is.  Positions up to the edited one stay what they were, so an edited loop is found
where the loop was (`getElem?_edit`).  Later positions move with the size of the edited statement,
but no declaration comes or goes: a call goes to a method of the same symbol as before, with a body
exactly if it had one (`callee?_edit`).
-/

namespace ComponentPasses.Snapshot

variable {change : Statement → Statement}

/-! ## 1. Editing -/

mutual

/-- The expression with a change to the statement that is its `i`-th node. -/
def Expression.edit (change : Statement → Statement) : Expression → Nat → Expression
  | .invocation receiver name arguments symbol location, i + 1 =>
    .invocation receiver name (Expression.editOf change arguments i) symbol location
  | .lambda parameters body expressionBody location, i + 1 =>
    if i < (Statement.nodesOfBody body).length then
      .lambda parameters (Statement.editOfBody change body i) expressionBody location
    else
      .lambda parameters body
        (Expression.editOfOption change expressionBody (i - (Statement.nodesOfBody body).length))
        location
  | e, _ => e

/-- The expressions with a change to the statement that is the `i`-th node of theirs. -/
def Expression.editOf (change : Statement → Statement) : List Expression → Nat → List Expression
  | [], _ => []
  | e :: rest, i =>
    if i < e.nodes.length then e.edit change i :: rest
    else e :: Expression.editOf change rest (i - e.nodes.length)

/-- The same for an expression that may be absent. -/
def Expression.editOfOption (change : Statement → Statement) :
    Option Expression → Nat → Option Expression
  | none, _ => none
  | some e, i => some (e.edit change i)

/-- The statement with a change to the statement that is its `i`-th node. -/
def Statement.edit (change : Statement → Statement) : Statement → Nat → Statement
  | s, 0 => change s
  | .block statements, i + 1 => .block (Statement.editOf change statements i)
  | .expression e, i + 1 => .expression (e.edit change i)
  | .loop kind keyword body, i + 1 => .loop kind keyword (body.edit change i)
  | .other text expressions statements, i + 1 =>
    if i < (Expression.nodesOf expressions).length then
      .other text (Expression.editOf change expressions i) statements
    else
      .other text expressions
        (Statement.editOf change statements (i - (Expression.nodesOf expressions).length))

/-- The statements with a change to the statement that is the `i`-th node of theirs. -/
def Statement.editOf (change : Statement → Statement) : List Statement → Nat → List Statement
  | [], _ => []
  | s :: rest, i =>
    if i < s.nodes.length then s.edit change i :: rest
    else s :: Statement.editOf change rest (i - s.nodes.length)

/-- The same for a block body that may be absent; the block itself is not changed. -/
def Statement.editOfBody (change : Statement → Statement) :
    Option (List Statement) → Nat → Option (List Statement)
  | some statements, i + 1 => some (Statement.editOf change statements i)
  | body, _ => body

end

mutual

/-- The declaration with a change to the statement that is its `i`-th node. -/
def Member.edit (change : Statement → Statement) : Member → Nat → Member
  | .classDeclaration name symbol attributes members location, i + 1 =>
    .classDeclaration name symbol attributes (Member.editOf change members i) location
  | .methodDeclaration name symbol parameters body location, i + 1 =>
    .methodDeclaration name symbol parameters (Statement.editOfBody change body i) location
  | m, _ => m

/-- The declarations with a change to the statement that is the `i`-th node of theirs. -/
def Member.editOf (change : Statement → Statement) : List Member → Nat → List Member
  | [], _ => []
  | m :: rest, i =>
    if i < m.nodes.length then m.edit change i :: rest
    else m :: Member.editOf change rest (i - m.nodes.length)

end

/-- The files with a change to the statement that is the `i`-th node of theirs. -/
def SourceFile.editOf (change : Statement → Statement) : List SourceFile → Nat → List SourceFile
  | [], _ => []
  | file :: rest, i =>
    if i < file.nodes.length then
      { file with members := Member.editOf change file.members i } :: rest
    else file :: SourceFile.editOf change rest (i - file.nodes.length)

/-- The snapshot with a change to the statement at a position. -/
def edit (change : Statement → Statement) (snapshot : Snapshot) (position : Nat) : Snapshot :=
  { snapshot with files := SourceFile.editOf change snapshot.files position }

/-- A loop with other statements for a body. -/
def Statement.withBody (statements : List Statement) : Statement → Statement
  | .loop kind keyword _ => .loop kind keyword (.block statements)
  | s => s

/-! ## 2. What stands at the position -/

section Position

variable {kind : LoopKind} {keyword : Location} {body : Statement}

/-- A change in the first part or in the second shows in the whole, where the place is in that
part. -/
theorem getElem?_append_edit {front front' back back' : List Node} {i : Nat} {old new : Node}
    (h : (front ++ back)[i]? = some old)
    (inFront : front[i]? = some old → front'[i]? = some new)
    (inBack : back[i - front.length]? = some old → back'[i - front.length]? = some new) :
    (i < front.length → (front' ++ back)[i]? = some new) ∧
      (¬ i < front.length → (front ++ back')[i]? = some new) := by
  constructor
  · intro inside
    rw [List.getElem?_append_left inside] at h
    have changed := inFront h
    rw [List.getElem?_append_left (List.getElem?_eq_some_iff.mp changed).1, changed]
  · intro outside
    have outside := Nat.le_of_not_lt outside
    rw [List.getElem?_append_right outside] at h ⊢
    exact inBack h

theorem getElem?_nodes_zero (s : Statement) : s.nodes[0]? = some (.statement s) := by
  cases s <;> simp [Statement.nodes]

mutual

theorem Expression.getElem?_edit : ∀ (e : Expression) (i : Nat),
    e.nodes[i]? = some (.statement (.loop kind keyword body)) →
      (e.edit change i).nodes[i]? = some (.statement (change (.loop kind keyword body)))
  | .invocation .., 0, h => by simp [Expression.nodes] at h
  | .invocation _ _ arguments _ _, i + 1, h => by
    simp only [Expression.nodes, Expression.edit, List.getElem?_cons_succ] at h ⊢
    exact Expression.getElem?_editOf arguments i h
  | .identifier _, i, h => by cases i <;> simp [Expression.nodes] at h
  | .lambda .., 0, h => by simp [Expression.nodes] at h
  | .lambda _ lambdaBody expressionBody _, i + 1, h => by
    simp only [Expression.nodes, List.getElem?_cons_succ] at h
    have edited := getElem?_append_edit h (Statement.getElem?_editOfBody lambdaBody i)
      (Expression.getElem?_editOfOption expressionBody _)
    rw [Expression.edit]
    split
    · exact edited.1 ‹_›
    · exact edited.2 ‹_›
  | .literal _, i, h => by cases i <;> simp [Expression.nodes] at h

theorem Expression.getElem?_editOf : ∀ (es : List Expression) (i : Nat),
    (Expression.nodesOf es)[i]? = some (.statement (.loop kind keyword body)) →
      (Expression.nodesOf (Expression.editOf change es i))[i]? =
        some (.statement (change (.loop kind keyword body)))
  | [], _, h => by simp [Expression.nodesOf] at h
  | e :: rest, i, h => by
    have edited := getElem?_append_edit h (Expression.getElem?_edit e i)
      (Expression.getElem?_editOf rest _)
    rw [Expression.editOf]
    split
    · exact edited.1 ‹_›
    · exact edited.2 ‹_›

theorem Expression.getElem?_editOfOption : ∀ (e : Option Expression) (i : Nat),
    (Expression.nodesOfOption e)[i]? = some (.statement (.loop kind keyword body)) →
      (Expression.nodesOfOption (Expression.editOfOption change e i))[i]? =
        some (.statement (change (.loop kind keyword body)))
  | none, _, h => by simp [Expression.nodesOfOption] at h
  | some e, i, h => Expression.getElem?_edit e i h

theorem Statement.getElem?_edit : ∀ (s : Statement) (i : Nat),
    s.nodes[i]? = some (.statement (.loop kind keyword body)) →
      (s.edit change i).nodes[i]? = some (.statement (change (.loop kind keyword body)))
  | .block _, 0, h => by simp [Statement.nodes] at h
  | .block statements, i + 1, h => by
    simp only [Statement.nodes, Statement.edit, List.getElem?_cons_succ] at h ⊢
    exact Statement.getElem?_editOf statements i h
  | .expression _, 0, h => by simp [Statement.nodes] at h
  | .expression e, i + 1, h => by
    simp only [Statement.nodes, Statement.edit, List.getElem?_cons_succ] at h ⊢
    exact Expression.getElem?_edit e i h
  | .loop kind' keyword' body', 0, h => by
    simp only [Statement.nodes, List.getElem?_cons_zero, Option.some.injEq, Node.statement.injEq]
      at h
    rw [Statement.edit, h]
    exact getElem?_nodes_zero _
  | .loop _ _ body', i + 1, h => by
    simp only [Statement.nodes, Statement.edit, List.getElem?_cons_succ] at h ⊢
    exact Statement.getElem?_edit body' i h
  | .other .., 0, h => by simp [Statement.nodes] at h
  | .other _ expressions statements, i + 1, h => by
    simp only [Statement.nodes, List.getElem?_cons_succ] at h
    have edited := getElem?_append_edit h (Expression.getElem?_editOf expressions i)
      (Statement.getElem?_editOf statements _)
    rw [Statement.edit]
    split
    · exact edited.1 ‹_›
    · exact edited.2 ‹_›

theorem Statement.getElem?_editOf : ∀ (ss : List Statement) (i : Nat),
    (Statement.nodesOf ss)[i]? = some (.statement (.loop kind keyword body)) →
      (Statement.nodesOf (Statement.editOf change ss i))[i]? =
        some (.statement (change (.loop kind keyword body)))
  | [], _, h => by simp [Statement.nodesOf] at h
  | s :: rest, i, h => by
    have edited := getElem?_append_edit h (Statement.getElem?_edit s i)
      (Statement.getElem?_editOf rest _)
    rw [Statement.editOf]
    split
    · exact edited.1 ‹_›
    · exact edited.2 ‹_›

theorem Statement.getElem?_editOfBody : ∀ (ss : Option (List Statement)) (i : Nat),
    (Statement.nodesOfBody ss)[i]? = some (.statement (.loop kind keyword body)) →
      (Statement.nodesOfBody (Statement.editOfBody change ss i))[i]? =
        some (.statement (change (.loop kind keyword body)))
  | none, _, h => by simp [Statement.nodesOfBody] at h
  | some _, 0, h => by simp [Statement.nodesOfBody] at h
  | some statements, i + 1, h => by
    simp only [Statement.nodesOfBody, Statement.editOfBody, List.getElem?_cons_succ] at h ⊢
    exact Statement.getElem?_editOf statements i h

end

mutual

theorem Member.getElem?_edit : ∀ (m : Member) (i : Nat),
    m.nodes[i]? = some (.statement (.loop kind keyword body)) →
      (m.edit change i).nodes[i]? = some (.statement (change (.loop kind keyword body)))
  | .classDeclaration .., 0, h => by simp [Member.nodes] at h
  | .classDeclaration _ _ _ members _, i + 1, h => by
    simp only [Member.nodes, Member.edit, List.getElem?_cons_succ] at h ⊢
    exact Member.getElem?_editOf members i h
  | .methodDeclaration .., 0, h => by simp [Member.nodes] at h
  | .methodDeclaration _ _ _ methodBody _, i + 1, h => by
    simp only [Member.nodes, Member.edit, List.getElem?_cons_succ] at h ⊢
    exact Statement.getElem?_editOfBody methodBody i h

theorem Member.getElem?_editOf : ∀ (ms : List Member) (i : Nat),
    (Member.nodesOf ms)[i]? = some (.statement (.loop kind keyword body)) →
      (Member.nodesOf (Member.editOf change ms i))[i]? =
        some (.statement (change (.loop kind keyword body)))
  | [], _, h => by simp [Member.nodesOf] at h
  | m :: rest, i, h => by
    have edited := getElem?_append_edit h (Member.getElem?_edit m i)
      (Member.getElem?_editOf rest _)
    rw [Member.editOf]
    split
    · exact edited.1 ‹_›
    · exact edited.2 ‹_›

end

theorem SourceFile.getElem?_editOf : ∀ (files : List SourceFile) (i : Nat),
    (files.flatMap (·.nodes))[i]? = some (.statement (.loop kind keyword body)) →
      ((SourceFile.editOf change files i).flatMap (·.nodes))[i]? =
        some (.statement (change (.loop kind keyword body)))
  | [], _, h => by simp at h
  | file :: rest, i, h => by
    have edited := getElem?_append_edit h (Member.getElem?_editOf file.members i)
      (SourceFile.getElem?_editOf rest _)
    rw [SourceFile.editOf]
    split
    · exact edited.1 ‹_›
    · exact edited.2 ‹_›

/-- An edited loop stands where the loop stood. -/
theorem getElem?_edit {snapshot : Snapshot} {position : Nat}
    (h : snapshot.nodes[position]? = some (.statement (.loop kind keyword body))) :
    (snapshot.edit change position).nodes[position]? =
      some (.statement (change (.loop kind keyword body))) := by
  rw [nodes_eq] at h ⊢
  exact SourceFile.getElem?_editOf snapshot.files position h

end Position

/-! ## 3. Declarations -/

/-- What an edit leaves of a method: the symbol it is declared under, and whether it has a body. -/
def Method.head (method : Method) : Option String × Bool :=
  (method.symbol, method.body.isSome)

/-- The head of the method that a node declares, if it declares one. -/
def Node.methodHead? : Node → Option (Option String × Bool)
  | .member (.methodDeclaration _ symbol _ body _) => some (symbol, body.isSome)
  | _ => none

/-- The heads of the methods that nodes declare, in order. -/
def methodHeads (nodes : List Node) : List (Option String × Bool) :=
  nodes.filterMap Node.methodHead?

theorem methodHeads_append (front back : List Node) :
    methodHeads (front ++ back) = methodHeads front ++ methodHeads back :=
  List.filterMap_append

theorem methodHeads_append_eq_nil {front back : List Node} (hf : methodHeads front = [])
    (hb : methodHeads back = []) : methodHeads (front ++ back) = [] := by
  rw [methodHeads_append, hf, hb, List.append_nil]

mutual

theorem Expression.methodHeads_nodes : ∀ e : Expression, methodHeads e.nodes = []
  | .invocation _ _ arguments _ _ => Expression.methodHeads_nodesOf arguments
  | .identifier _ => rfl
  | .lambda _ body expressionBody _ =>
    methodHeads_append_eq_nil (Statement.methodHeads_nodesOfBody body)
      (Expression.methodHeads_nodesOfOption expressionBody)
  | .literal _ => rfl

theorem Expression.methodHeads_nodesOf :
    ∀ es : List Expression, methodHeads (Expression.nodesOf es) = []
  | [] => rfl
  | e :: rest =>
    methodHeads_append_eq_nil (Expression.methodHeads_nodes e)
      (Expression.methodHeads_nodesOf rest)

theorem Expression.methodHeads_nodesOfOption :
    ∀ e : Option Expression, methodHeads (Expression.nodesOfOption e) = []
  | none => rfl
  | some e => Expression.methodHeads_nodes e

/-- No method is declared inside a statement. -/
theorem Statement.methodHeads_nodes : ∀ s : Statement, methodHeads s.nodes = []
  | .block statements => Statement.methodHeads_nodesOf statements
  | .expression e => Expression.methodHeads_nodes e
  | .loop _ _ body => Statement.methodHeads_nodes body
  | .other _ expressions statements =>
    methodHeads_append_eq_nil (Expression.methodHeads_nodesOf expressions)
      (Statement.methodHeads_nodesOf statements)

theorem Statement.methodHeads_nodesOf :
    ∀ ss : List Statement, methodHeads (Statement.nodesOf ss) = []
  | [] => rfl
  | s :: rest =>
    methodHeads_append_eq_nil (Statement.methodHeads_nodes s) (Statement.methodHeads_nodesOf rest)

theorem Statement.methodHeads_nodesOfBody :
    ∀ body : Option (List Statement), methodHeads (Statement.nodesOfBody body) = []
  | none => rfl
  | some statements => Statement.methodHeads_nodesOf statements

end

theorem Statement.isSome_editOfBody (body : Option (List Statement)) (i : Nat) :
    (Statement.editOfBody change body i).isSome = body.isSome := by
  cases body <;> cases i <;> rfl

mutual

theorem Member.methodHeads_edit :
    ∀ (m : Member) (i : Nat), methodHeads (m.edit change i).nodes = methodHeads m.nodes
  | .classDeclaration .., 0 => rfl
  | .classDeclaration _ _ _ members _, i + 1 => Member.methodHeads_editOf members i
  | .methodDeclaration .., 0 => rfl
  | .methodDeclaration _ symbol _ body _, i + 1 => by
    simp only [Member.edit, Member.nodes, methodHeads, List.filterMap_cons, Node.methodHead?,
      Statement.isSome_editOfBody]
    exact congrArg ((symbol, body.isSome) :: ·)
      ((Statement.methodHeads_nodesOfBody _).trans (Statement.methodHeads_nodesOfBody _).symm)

theorem Member.methodHeads_editOf : ∀ (ms : List Member) (i : Nat),
    methodHeads (Member.nodesOf (Member.editOf change ms i)) = methodHeads (Member.nodesOf ms)
  | [], _ => rfl
  | m :: rest, i => by
    rw [Member.editOf]
    split
    · simp only [Member.nodesOf, methodHeads_append, Member.methodHeads_edit m i]
    · simp only [Member.nodesOf, methodHeads_append, Member.methodHeads_editOf rest]

end

theorem SourceFile.methodHeads_editOf (files : List SourceFile) (i : Nat) :
    methodHeads ((SourceFile.editOf change files i).flatMap (·.nodes)) =
      methodHeads (files.flatMap (·.nodes)) := by
  induction files generalizing i with
  | nil => rfl
  | cons file rest ih =>
    rw [SourceFile.editOf]
    split
    · simp only [List.flatMap_cons, methodHeads_append, SourceFile.nodes,
        Member.methodHeads_editOf file.members i]
    · simp only [List.flatMap_cons, methodHeads_append, ih]

theorem map_head_ofNode? (node : Node) (position : Nat) :
    (Method.ofNode? (node, position)).map Method.head = node.methodHead? := by
  match node with
  | .member (.methodDeclaration ..) | .member (.classDeclaration ..) | .statement _
  | .expression _ => rfl

/-- The heads of the declared methods are those that the nodes have, wherever the nodes stand. -/
theorem map_head_ofNodes (nodes : List Node) (position : Nat) :
    ((nodes.zipIdx position).filterMap Method.ofNode?).map Method.head = methodHeads nodes := by
  calc ((nodes.zipIdx position).filterMap Method.ofNode?).map Method.head
      _ = (nodes.zipIdx position).filterMap (Node.methodHead? ∘ Prod.fst) := by
        rw [List.map_filterMap]
        exact congrArg (List.filterMap · _)
          (funext fun placed => map_head_ofNode? placed.1 placed.2)
      _ = methodHeads nodes := by
        rw [← List.filterMap_map, List.zipIdx_map_fst, methodHeads]

theorem map_head_declaredMethods (snapshot : Snapshot) :
    (declaredMethods snapshot).map Method.head = methodHeads snapshot.nodes :=
  map_head_ofNodes snapshot.nodes 0

/-- A call goes to a method of the same head in an edited snapshot. -/
theorem callee?_edit (snapshot : Snapshot) (position : Nat) (symbol : Option String) :
    ((Compilation.ofSnapshot (snapshot.edit change position)).callee? symbol).map Method.head =
      ((Compilation.ofSnapshot snapshot).callee? symbol).map Method.head := by
  have found : ∀ (methods : List Method) (s : String),
      (methods.find? fun method => given? method.symbol = some s).map Method.head =
        (methods.map Method.head).find? fun head => given? head.1 = some s := by
    intro methods s
    rw [List.find?_map]
    rfl
  rw [Compilation.callee?_ofSnapshot, Compilation.callee?_ofSnapshot, Option.map_bind,
    Option.map_bind]
  congr 1
  funext s
  dsimp only [Function.comp_apply]
  rw [found, found, map_head_declaredMethods, map_head_declaredMethods, nodes_eq, nodes_eq]
  exact congrArg _ (SourceFile.methodHeads_editOf snapshot.files position)

end ComponentPasses.Snapshot

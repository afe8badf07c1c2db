import ComponentPasses.Proofs.Snapshot.Editing
import Mathlib.Data.List.Forall2

/-!
# Looking up is searching

The indexes of a compilation answer as a search does that goes through the snapshot from the front
and stops at the first declaration (`lookups_find_first`): through the types in the order they are
listed, and for methods through all trees in pre-order, whatever classes a method is nested in and
whether it has a body or not.

So a declaration that comes after another of its name is never found, and it makes no difference to
be rid of it.  A method can be put in before any member of any class of any file
(`SourceFile.PutIn`).  That changes the nodes of the classes around it, and the positions of what
comes after it, but what is declared before and after stays (`GainsAt`).
-/

namespace ComponentPasses.Snapshot

/-! ## 1. Searching for a method -/

/-- The symbol under which a node declares a class. -/
def Node.classSymbol? : Node → Option String
  | .member (.classDeclaration _ symbol _ _ _) => symbol
  | _ => none

/-- The symbol under which a node declares a method. -/
def Node.methodSymbol? : Node → Option String
  | .member (.methodDeclaration _ symbol _ _ _) => symbol
  | _ => none

/-- The nodes of all files in pre-order. -/
def preorder (snapshot : Snapshot) : List Node :=
  snapshot.files.flatMap (·.nodes)

theorem given?_eq_some_iff {symbol : Option String} {s : String} :
    given? symbol = some s ↔ symbol = some s ∧ s ≠ "" := by
  simp [given?, Option.filter_eq_some_iff]

/-- The type that a node declares is that of its symbol. -/
theorem declaredType?_eq (compilation : Compilation) (node : Node) :
    compilation.declaredType? node = (given? node.classSymbol?).bind compilation.type? := by
  match node with
  | .member (.classDeclaration ..) | .member (.methodDeclaration ..) | .statement _
  | .expression _ => rfl

/-- Under a symbol that is not empty, a node declares a method exactly if it has the symbol. -/
theorem any_ofNode? {s : String} (some : s ≠ "") (node : Node) (position : Nat) :
    ((Method.ofNode? (node, position)).any fun method => given? method.symbol = .some s) =
      decide (node.methodSymbol? = .some s) := by
  rw [Bool.eq_iff_iff, decide_eq_true_iff]
  match node with
  | .member (.methodDeclaration ..) =>
    simp [Method.ofNode?, Node.methodSymbol?, given?_eq_some_iff, some]
  | .member (.classDeclaration ..) | .statement _ | .expression _ =>
    simp [Method.ofNode?, Node.methodSymbol?]

/-- A call goes to the first node in pre-order that declares a method under its symbol. -/
theorem callee?_eq_find? (snapshot : Snapshot) {s : String} (some : s ≠ "") :
    (Compilation.ofSnapshot snapshot).callee? (.some s) =
      (snapshot.preorder.zipIdx.find? fun placed => placed.1.methodSymbol? = .some s).bind
        Method.ofNode? := by
  have asked : given? (.some s) = .some s := given?_eq_some_iff.mpr ⟨rfl, some⟩
  rw [Compilation.callee?_ofSnapshot, asked, Option.bind_some, declaredMethods, nodes_eq,
    List.find?_filterMap]
  congr 2
  funext placed
  exact any_ofNode? some placed.1 placed.2

/-! ## 2. Methods at positions -/

/-- The methods that nodes declare, where the first of the nodes stands at a position. -/
def methodsFrom (position : Nat) (nodes : List Node) : List Method :=
  (nodes.zipIdx position).filterMap Method.ofNode?

theorem methodsFrom_append (position : Nat) (front back : List Node) :
    methodsFrom position (front ++ back) =
      methodsFrom position front ++ methodsFrom (position + front.length) back := by
  rw [methodsFrom, List.zipIdx_append, List.filterMap_append]
  rfl

theorem methodsFrom_cons (position : Nat) (node : Node) (rest : List Node) :
    methodsFrom position (node :: rest) =
      (Method.ofNode? (node, position)).toList ++ methodsFrom (position + 1) rest := by
  rw [methodsFrom, List.zipIdx_cons, List.filterMap_cons]
  cases Method.ofNode? (node, position) <;> rfl

/-- A method stands among the nodes that declare it. -/
theorem position_of_mem_methodsFrom {position : Nat} {nodes : List Node} {method : Method}
    (h : method ∈ methodsFrom position nodes) :
    position ≤ method.position ∧ method.position < position + nodes.length := by
  obtain ⟨⟨node, place⟩, placed, declared⟩ := List.mem_filterMap.mp h
  rw [(Method.ofNode?_eq_some_iff.mp declared).2]
  exact ⟨List.le_snd_of_mem_zipIdx placed, List.snd_lt_add_of_mem_zipIdx placed⟩

/-- The method as it stands after nodes have been put in at a place. -/
def Method.makeRoom (place count : Nat) (method : Method) : Method :=
  if method.position < place then method else { method with position := method.position + count }

theorem Method.symbol_makeRoom (place count : Nat) (method : Method) :
    (method.makeRoom place count).symbol = method.symbol := by
  unfold makeRoom
  split <;> rfl

/-- Methods in front of a place stay where they are. -/
theorem map_makeRoom_front {place : Nat} {nodes : List Node} (count : Nat)
    (inside : nodes.length ≤ place) :
    (methodsFrom 0 nodes).map (Method.makeRoom place count) = methodsFrom 0 nodes := by
  refine (List.map_congr_left fun method h => ?_).trans (List.map_id _)
  have := (position_of_mem_methodsFrom h).2
  exact if_pos (by omega)

theorem makeRoom_ofNode? {place position : Nat} (behind : place ≤ position) (count : Nat)
    (node : Node) :
    (Method.ofNode? (node, position)).map (Method.makeRoom place count) =
      Method.ofNode? (node, position + count) := by
  match node with
  | .member (.methodDeclaration ..) =>
    exact congrArg Option.some (if_neg (Nat.not_lt_of_le behind))
  | .member (.classDeclaration ..) | .statement _ | .expression _ => rfl

/-- Methods behind a place move. -/
theorem map_makeRoom_back {place position : Nat} (behind : place ≤ position) (count : Nat)
    (nodes : List Node) :
    (methodsFrom position nodes).map (Method.makeRoom place count) =
      methodsFrom (position + count) nodes := by
  induction nodes generalizing position with
  | nil => rfl
  | cons node rest ih =>
    have further := ih (Nat.le_succ_of_le behind)
    rw [Nat.succ_add] at further
    rw [methodsFrom_cons, methodsFrom_cons, List.map_append, further,
      ← makeRoom_ofNode? behind count node]
    cases Method.ofNode? (node, position) <;> rfl

/-! ## 3. Putting a member in -/

/-- Members, the same with one more put in, and the number of nodes in front of it.  It may stand in
front of any member, at the end, or inside a class. -/
inductive Member.PutIn (added : Member) : List Member → List Member → Nat → Prop
  | here (rest : List Member) : Member.PutIn added rest (added :: rest) 0
  | later (first : Member) {rest rest' : List Member} {place : Nat}
      (behind : Member.PutIn added rest rest' place) :
      Member.PutIn added (first :: rest) (first :: rest') (first.nodes.length + place)
  | inside (name : String) (symbol : Option String) (attributes : List String)
      (location : Location) (rest : List Member) {members members' : List Member} {place : Nat}
      (within : Member.PutIn added members members' place) :
      Member.PutIn added (.classDeclaration name symbol attributes members location :: rest)
        (.classDeclaration name symbol attributes members' location :: rest) (place + 1)

/-- Files, the same with one more member put in, and the number of nodes in front of it. -/
inductive SourceFile.PutIn (added : Member) : List SourceFile → List SourceFile → Nat → Prop
  | inside (file : SourceFile) (rest : List SourceFile) {members : List Member} {place : Nat}
      (within : Member.PutIn added file.members members place) :
      SourceFile.PutIn added (file :: rest) ({ file with members := members } :: rest) place
  | later (file : SourceFile) {rest rest' : List SourceFile} {place : Nat}
      (behind : SourceFile.PutIn added rest rest' place) :
      SourceFile.PutIn added (file :: rest) (file :: rest') (file.nodes.length + place)

/-- Wherever they stand, two nodes declare the same method, or none. -/
def Node.DeclaresAlike (node node' : Node) : Prop :=
  ∀ position, Method.ofNode? (node, position) = Method.ofNode? (node', position)

/-- Nodes, and the same with others put in at a place.  Those in front of the place need not be the
same, but declare the same methods. -/
def GainsAt (place : Nat) (added nodes nodes' : List Node) : Prop :=
  ∃ front front' back, nodes = front ++ back ∧ nodes' = front' ++ (added ++ back) ∧
    front.length = place ∧ List.Forall₂ Node.DeclaresAlike front front'

namespace GainsAt

variable {place : Nat} {added nodes nodes' : List Node}

theorem start (added nodes : List Node) : GainsAt 0 added nodes (added ++ nodes) :=
  ⟨[], [], nodes, rfl, rfl, rfl, .nil⟩

theorem append (h : GainsAt place added nodes nodes') (after : List Node) :
    GainsAt place added (nodes ++ after) (nodes' ++ after) := by
  obtain ⟨front, front', back, rfl, rfl, length, alike⟩ := h
  exact ⟨front, front', back ++ after, by simp, by simp, length, alike⟩

theorem behind (h : GainsAt place added nodes nodes') (before : List Node) :
    GainsAt (before.length + place) added (before ++ nodes) (before ++ nodes') := by
  obtain ⟨front, front', back, rfl, rfl, rfl, alike⟩ := h
  have same : List.Forall₂ Node.DeclaresAlike before before :=
    List.forall₂_same.mpr fun _ _ _ => rfl
  exact ⟨before ++ front, before ++ front', back, by simp, by simp, List.length_append,
    List.rel_append same alike⟩

theorem cons (h : GainsAt place added nodes nodes') {node node' : Node}
    (alike : node.DeclaresAlike node') :
    GainsAt (place + 1) added (node :: nodes) (node' :: nodes') := by
  obtain ⟨front, front', back, rfl, rfl, rfl, others⟩ := h
  exact ⟨node :: front, node' :: front', back, rfl, rfl, rfl, .cons alike others⟩

end GainsAt

theorem Member.PutIn.gainsAt {added : Member} {members members' : List Member} {place : Nat}
    (h : Member.PutIn added members members' place) :
    GainsAt place added.nodes (Member.nodesOf members) (Member.nodesOf members') := by
  induction h with
  | here rest => exact .start _ _
  | later first _ ih => exact ih.behind first.nodes
  | @inside name symbol attributes location rest members members' _ _ ih =>
    have alike : Node.DeclaresAlike
        (.member (.classDeclaration name symbol attributes members location))
        (.member (.classDeclaration name symbol attributes members' location)) := fun _ => rfl
    exact (ih.cons alike).append (Member.nodesOf rest)

theorem SourceFile.PutIn.gainsAt {added : Member} {files files' : List SourceFile} {place : Nat}
    (h : SourceFile.PutIn added files files' place) :
    GainsAt place added.nodes (files.flatMap (·.nodes)) (files'.flatMap (·.nodes)) := by
  induction h with
  | inside file rest within => exact within.gainsAt.append _
  | later file _ ih => exact ih.behind file.nodes

/-! ## 4. Repetitions -/

theorem methodsFrom_congr {front front' : List Node}
    (alike : List.Forall₂ Node.DeclaresAlike front front') (position : Nat) :
    methodsFrom position front = methodsFrom position front' := by
  induction alike generalizing position with
  | nil => rfl
  | cons same _ ih => rw [methodsFrom_cons, methodsFrom_cons, same position, ih]

/-- After nodes have been put in, the methods in front of the place are the same as before, then
come those of the new nodes, and the others have made room. -/
theorem methodsFrom_gained {place : Nat} {added nodes nodes' : List Node}
    (h : GainsAt place added nodes nodes') :
    ∃ back, methodsFrom 0 nodes' =
        methodsFrom 0 (nodes.take place) ++ (methodsFrom place added ++ back) ∧
      (methodsFrom 0 nodes).map (Method.makeRoom place added.length) =
        methodsFrom 0 (nodes.take place) ++ back := by
  obtain ⟨front, front', back, rfl, rfl, rfl, alike⟩ := h
  refine ⟨methodsFrom (front.length + added.length) back, ?_, ?_⟩
  · rw [List.take_left, methodsFrom_append, methodsFrom_append, ← methodsFrom_congr alike,
      ← alike.length_eq, Nat.zero_add]
  · rw [List.take_left, methodsFrom_append, List.map_append, map_makeRoom_front _ (Nat.le_refl _),
      map_makeRoom_back (Nat.le_of_eq (Nat.zero_add _).symm), Nat.zero_add]

/-- A search finds no item that comes after another one like it. -/
theorem find?_repeated {α : Type} {p : α → Bool} {front : List α} {item : α}
    (repeated : p item = true → ∃ earlier ∈ front, p earlier = true) (back : List α) :
    (front ++ item :: back).find? p = (front ++ back).find? p := by
  rw [List.find?_append, List.find?_append]
  cases found : front.find? p with
  | some earlier => rfl
  | none =>
    have unlike : p item = false := by
      by_contra like
      obtain ⟨earlier, present, like⟩ := repeated (eq_true_of_ne_false like)
      exact List.find?_eq_none.mp found earlier present like
    rw [List.find?_cons_of_neg (by simp [unlike])]

/-- A method declaration declares one method. -/
theorem exists_methodsFrom_nodes {added : Member} {symbol : String}
    (declares : (Node.member added).methodSymbol? = some symbol) (position : Nat) :
    ∃ method, methodsFrom position added.nodes = [method] ∧ method.symbol = some symbol := by
  match added with
  | .classDeclaration .. => cases declares
  | .methodDeclaration name _ parameters body location =>
    cases declares
    have none : methodsFrom (position + 1) (Statement.nodesOfBody body) = [] := by
      have heads := map_head_ofNodes (Statement.nodesOfBody body) (position + 1)
      rw [Statement.methodHeads_nodesOfBody] at heads
      exact List.map_eq_nil_iff.mp heads
    refine ⟨⟨position, name, some symbol, body⟩, ?_, rfl⟩
    rw [Member.nodes, methodsFrom_cons, none]
    rfl

theorem exists_mem_methodsFrom {nodes : List Node} {node : Node} {symbol : String}
    (present : node ∈ nodes) (declares : node.methodSymbol? = some symbol) :
    ∃ method ∈ methodsFrom 0 nodes, method.symbol = some symbol := by
  obtain ⟨position, stands⟩ := List.mem_iff_getElem?.mp present
  match node with
  | .member (.methodDeclaration name _ parameters body location) =>
    cases declares
    exact ⟨⟨position, name, some symbol, body⟩,
      List.mem_filterMap.mpr ⟨_, List.mk_mem_zipIdx_iff_getElem?.mpr stands, rfl⟩, rfl⟩
  | .member (.classDeclaration ..) | .statement _ | .expression _ => cases declares

/-- The answers about one snapshot are those about another, with methods in other places. -/
structure AnswersAs (snapshot' snapshot : Snapshot) (relocate : Method → Method) : Prop where
  type? : ∀ metadataName, (Compilation.ofSnapshot snapshot').type? metadataName =
    (Compilation.ofSnapshot snapshot).type? metadataName
  declaredType? : ∀ node, (Compilation.ofSnapshot snapshot').declaredType? node =
    (Compilation.ofSnapshot snapshot).declaredType? node
  callee? : ∀ symbol, (Compilation.ofSnapshot snapshot').callee? symbol =
    ((Compilation.ofSnapshot snapshot).callee? symbol).map relocate

/-- What a class declares is found by its name, so only names of types and calls are to be looked
up. -/
theorem AnswersAs.of_type? {snapshot' snapshot : Snapshot} {relocate : Method → Method}
    (types : ∀ metadataName, (Compilation.ofSnapshot snapshot').type? metadataName =
      (Compilation.ofSnapshot snapshot).type? metadataName)
    (callees : ∀ symbol, (Compilation.ofSnapshot snapshot').callee? symbol =
      ((Compilation.ofSnapshot snapshot).callee? symbol).map relocate) :
    AnswersAs snapshot' snapshot relocate := by
  refine ⟨types, fun node => ?_, callees⟩
  rw [declaredType?_eq, declaredType?_eq]
  exact congrArg _ (funext types)

/-- A repeated type is not found. -/
theorem answersAs_of_repeatedType {snapshot : Snapshot} {front back : List DeclaredType}
    {type : DeclaredType} (split : snapshot.types = front ++ back)
    (repeated : ∃ earlier ∈ front, earlier.metadataName = type.metadataName) :
    AnswersAs { snapshot with types := front ++ type :: back } snapshot id := by
  refine .of_type? (fun metadataName => ?_) fun symbol => Option.map_id.symm ▸ rfl
  rw [Compilation.type?_ofSnapshot, Compilation.type?_ofSnapshot, split]
  refine find?_repeated (fun asked => ?_) back
  obtain ⟨earlier, present, alike⟩ := repeated
  exact ⟨earlier, present, by simpa [alike] using asked⟩

/-- A repeated method is not found, and the others are found where they are now. -/
theorem answersAs_of_repeatedMethod {snapshot : Snapshot} {added : Member}
    {files : List SourceFile} {place : Nat} {symbol : String}
    (declares : (Node.member added).methodSymbol? = some symbol)
    (putIn : SourceFile.PutIn added snapshot.files files place)
    (repeated : ∃ earlier ∈ snapshot.preorder.take place, earlier.methodSymbol? = some symbol) :
    AnswersAs { snapshot with files := files } snapshot
      (Method.makeRoom place added.nodes.length) := by
  refine .of_type? (fun _ => rfl) fun asked => ?_
  obtain ⟨back, now, before⟩ := methodsFrom_gained putIn.gainsAt
  obtain ⟨method, only, under⟩ := exists_methodsFrom_nodes declares place
  obtain ⟨node, present, declares'⟩ := repeated
  obtain ⟨earlier, present, under'⟩ := exists_mem_methodsFrom present declares'
  rw [Compilation.callee?_ofSnapshot, Compilation.callee?_ofSnapshot, Option.map_bind]
  congr 1
  funext s
  -- the new method stands behind one of its symbol, so a search passes it by
  have declared : declaredMethods { snapshot with files := files } =
      methodsFrom 0 (snapshot.preorder.take place) ++ method :: back := by
    rw [declaredMethods, nodes_eq, ← methodsFrom, now, only]
    rfl
  have moved : (declaredMethods snapshot).map (Method.makeRoom place added.nodes.length) =
      methodsFrom 0 (snapshot.preorder.take place) ++ back := by
    rw [declaredMethods, nodes_eq, ← methodsFrom, before]
    rfl
  rw [Function.comp_apply, declared,
    find?_repeated (fun like => ⟨earlier, present, by rwa [under'.trans under.symm]⟩) back,
    ← moved, List.find?_map]
  congr 2
  funext method
  rw [Function.comp_apply, Method.symbol_makeRoom]

/-! ## 5. The answers of a compilation -/

/-- **Looking up is searching.**  A metadata name stands for the first type of the name, a class
declaration for the type of its symbol, and a call goes to the first declaration in pre-order of a
method under its symbol; without a symbol, or with an empty one, there is no answer.  A type or
method that is declared again further on changes no answer, but for the positions behind it. -/
theorem lookups_find_first (snapshot : Snapshot) :
    let compilation := Compilation.ofSnapshot snapshot
    (∀ metadataName, compilation.type? metadataName =
      snapshot.types.find? fun type => type.metadataName = metadataName) ∧
    (∀ node symbol, node.classSymbol? = some symbol → symbol ≠ "" →
      compilation.declaredType? node = compilation.type? symbol) ∧
    (∀ node, node.classSymbol? = none ∨ node.classSymbol? = some "" →
      compilation.declaredType? node = none) ∧
    (∀ symbol, symbol ≠ "" → compilation.callee? (some symbol) =
      (snapshot.preorder.zipIdx.find? fun placed => placed.1.methodSymbol? = some symbol).bind
        Method.ofNode?) ∧
    (compilation.callee? none = none ∧ compilation.callee? (some "") = none) ∧
    (∀ front type back, snapshot.types = front ++ back →
      (∃ earlier ∈ front, earlier.metadataName = type.metadataName) →
        AnswersAs { snapshot with types := front ++ type :: back } snapshot id) ∧
    ∀ added files place symbol, (Node.member added).methodSymbol? = some symbol →
      SourceFile.PutIn added snapshot.files files place →
        (∃ earlier ∈ snapshot.preorder.take place, earlier.methodSymbol? = some symbol) →
          AnswersAs { snapshot with files := files } snapshot
            (Method.makeRoom place added.nodes.length) := by
  refine ⟨Compilation.type?_ofSnapshot snapshot, ?declared, ?undeclared,
    fun _ => callee?_eq_find? snapshot, ⟨rfl, rfl⟩,
    fun _ _ _ => answersAs_of_repeatedType, fun _ _ _ _ => answersAs_of_repeatedMethod⟩
  case declared =>
    intro node symbol declares some
    rw [declaredType?_eq, given?_eq_some_iff.mpr ⟨declares, some⟩, Option.bind_some]
  case undeclared =>
    intro node without
    rw [declaredType?_eq]
    rcases without with absent | empty
    · rw [absent]
      rfl
    · rw [empty]
      rfl

/-- A type that is listed twice, and a method that is declared inside of two classes and then again,
with a body, in another file. -/
def gallery : Snapshot where
  types := [{ name := "Grid" }, { name := "Grid", kind := .structKind }]
  files := [
    { members := [.classDeclaration "Page" (some "Page") [] [
        .classDeclaration "Grid" (some "Grid") [] [
          .methodDeclaration "Draw" (some "Grid.Draw") [] none {}] {}] {}] },
    { members := [.methodDeclaration "Draw" (some "Grid.Draw") [] (some []) {}] }]

theorem lookups_find_first_gallery :
    let compilation := Compilation.ofSnapshot gallery
    let grid : Node := .member (.classDeclaration "Grid" (some "Grid") [] [] {})
    let drawn : Member := .methodDeclaration "Draw" (some "Grid.Draw") [] (some []) {}
    compilation.type? "Grid" = some { name := "Grid" } ∧
    compilation.declaredType? grid = some { name := "Grid" } ∧
    compilation.declaredType? (.member drawn) = none ∧
    compilation.callee? (some "Grid.Draw") = some ⟨2, "Draw", some "Grid.Draw", none⟩ ∧
    AnswersAs { gallery with types := [{ name := "Grid" },
      { name := "Grid", kind := .interfaceKind }, { name := "Grid", kind := .structKind }] }
      gallery id ∧
    AnswersAs { gallery with files := [
      { members := [.classDeclaration "Page" (some "Page") [] [
          .classDeclaration "Grid" (some "Grid") [] [
            .methodDeclaration "Draw" (some "Grid.Draw") [] none {}, drawn] {}] {}] },
      { members := [drawn] }] } gallery (Method.makeRoom 3 2) := by
  obtain ⟨type?, declared, undeclared, callee?, -, repeatedType, repeatedMethod⟩ :=
    lookups_find_first gallery
  have grid : gallery.types.find? (fun type => type.metadataName = "Grid") =
      some { name := "Grid" } := by decide
  refine ⟨(type? "Grid").trans grid, ?_, undeclared _ (.inl rfl), ?_, ?_, ?_⟩
  · exact (declared _ "Grid" rfl (by decide)).trans ((type? "Grid").trans grid)
  · exact (callee? "Grid.Draw" (by decide)).trans rfl
  · exact repeatedType [{ name := "Grid" }] _ _ rfl ⟨_, .head _, rfl⟩
  · exact repeatedMethod _ _ _ "Grid.Draw" rfl
      (.inside _ _ (.inside "Page" _ _ _ _ (.inside "Grid" _ _ _ _ (.later _ (.here _)))))
      ⟨_, .tail _ (.tail _ (.head _)), rfl⟩

end ComponentPasses.Snapshot

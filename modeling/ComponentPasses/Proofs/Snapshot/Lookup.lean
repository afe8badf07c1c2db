import ComponentPasses.Proofs.Data.Entries
import ComponentPasses.Proofs.Snapshot.Positions

/-!
# What the indexes answer

An index is built by adding each item under its key unless the key is there, so a look-up finds the
first item of the key (`get?_indexAll`).  For types this says which one a metadata name stands for;
for methods, which declaration a call goes to, and where its body stands in the forest
(`StandsAt.body_of_callee`).
-/

namespace ComponentPasses

namespace Data.Entries

variable {α : Type}

/-- An index holds, under each key, the first item that has the key. -/
theorem get?_indexAll (keyOf : α → Option String) (items : List α) (entries : Entries α)
    (k : String) :
    (items.foldl (fun index item =>
        match keyOf item with
        | some key => index.putNew key item
        | none => index) entries).get? k =
      (entries.get? k).or (items.find? fun item => keyOf item = some k) := by
  induction items generalizing entries with
  | nil => simp
  | cons item rest ih =>
    rw [List.foldl_cons, ih, List.find?_cons]
    cases h : keyOf item with
    | none => simp
    | some key =>
      rw [get?_putNew]
      by_cases same : k = key
      · simp [same]
      · simp [same, Ne.symm same]

end Data.Entries

namespace Snapshot

open Data (Entries)

/-- The type of a metadata name is the first one declared under it. -/
theorem Compilation.type?_ofSnapshot (snapshot : Snapshot) (metadataName : String) :
    (ofSnapshot snapshot).type? metadataName =
      snapshot.types.find? fun type => type.metadataName = metadataName := by
  have indexed : (ofSnapshot snapshot).type? metadataName = _ :=
    Entries.get?_indexAll (fun type : DeclaredType => some type.metadataName) snapshot.types []
      metadataName
  simpa [Entries.get?] using indexed

theorem metadataName_of_type? {snapshot : Snapshot} {metadataName : String} {type : DeclaredType}
    (found : (Compilation.ofSnapshot snapshot).type? metadataName = some type) :
    type.metadataName = metadataName := by
  rw [Compilation.type?_ofSnapshot] at found
  simpa using List.find?_some found

/-- The methods that a snapshot declares, in order. -/
def declaredMethods (snapshot : Snapshot) : List Method :=
  snapshot.nodes.zipIdx.filterMap Method.ofNode?

/-- A call goes to the first method declared under its symbol. -/
theorem Compilation.callee?_ofSnapshot (snapshot : Snapshot) (symbol : Option String) :
    (ofSnapshot snapshot).callee? symbol =
      (given? symbol).bind fun s =>
        (declaredMethods snapshot).find? fun method => given? method.symbol = some s := by
  unfold callee?
  congr 1
  funext s
  exact (Entries.get?_indexAll (fun method : Method => given? method.symbol)
    (declaredMethods snapshot) [] s).trans (by simp [Entries.get?])

/-- The method that a call goes to is declared under the symbol of the call, and known by it. -/
theorem declared_of_callee {snapshot : Snapshot} {symbol : Option String} {method : Method}
    (found : (Compilation.ofSnapshot snapshot).callee? symbol = some method) :
    method ∈ declaredMethods snapshot ∧ given? method.symbol = some method.identity ∧
      given? symbol = some method.identity := by
  rw [Compilation.callee?_ofSnapshot, Option.bind_eq_some_iff] at found
  obtain ⟨s, asked, found⟩ := found
  have under : given? method.symbol = some s := by simpa using List.find?_some found
  have known : method.identity = s := by rw [Method.identity, under, Option.getD_some]
  exact ⟨List.mem_of_find?_eq_some found, known ▸ under, known ▸ asked⟩

/-- A placed node declares a method exactly if it is the declaration of the method, at its position.
-/
theorem Method.ofNode?_eq_some_iff {node : Node} {position : Nat} {method : Method} :
    Method.ofNode? (node, position) = some method ↔
      (∃ parameters location, node = .member
        (.methodDeclaration method.name method.symbol parameters method.body location)) ∧
        method.position = position := by
  constructor
  · intro declared
    unfold ofNode? at declared
    split at declared
    · rename_i same
      cases same
      cases declared
      exact ⟨⟨_, _, rfl⟩, rfl⟩
    · cases declared
  · rintro ⟨⟨parameters, location, rfl⟩, rfl⟩
    rfl

/-- A declared method is the declaration that stands at its position. -/
theorem getElem?_of_mem_declaredMethods {snapshot : Snapshot} {method : Method}
    (h : method ∈ declaredMethods snapshot) :
    ∃ parameters location, snapshot.nodes[method.position]? =
      some (.member
        (.methodDeclaration method.name method.symbol parameters method.body location)) := by
  obtain ⟨⟨node, position⟩, placed, declared⟩ := List.mem_filterMap.mp h
  obtain ⟨⟨parameters, location, rfl⟩, rfl⟩ := Method.ofNode?_eq_some_iff.mp declared
  exact ⟨parameters, location, List.mem_zipIdx_iff_getElem?.mp placed⟩

/-- The body of the method that a call goes to stands two positions after the method. -/
theorem StandsAt.body_of_callee {snapshot : Snapshot} {symbol : Option String} {method : Method}
    {body : List Statement} (found : (Compilation.ofSnapshot snapshot).callee? symbol = some method)
    (declared : method.body = some body) :
    StandsAt snapshot.nodes (method.position + 2) (Statement.nodesOf body) := by
  obtain ⟨parameters, location, placed⟩ :=
    getElem?_of_mem_declaredMethods (declared_of_callee found).1
  have stands := isForest_nodes snapshot _ _ placed
  rw [declared] at stands
  simp only [Node.nodes, Member.nodes, Statement.nodesOfBody] at stands
  exact stands.tail.tail

end Snapshot

end ComponentPasses

import ComponentPasses.Snapshot.Basic
import Mathlib.Data.List.Nodup

/-!
# The traversal is the pre-order

A file is walked with a stack, and pre-order is a recursion over trees.  Both give the same list,
because of what a stack stands for: the pre-order of each node on it, from the top down
(`unstack_eq`).  Taking a node off and pushing its parts in reverse leaves that as it was, but for
the node.

A node has a **place**: the file it is in, and then at each step down which part is entered.  Places
tell apart nodes that look the same.  `Lists` says that a list of nodes goes through places once
each, a node before what is inside it; it is shown for a node from its parts (`Lists.node`) and for
a row of trees from the trees (`exists_lists_below`), hence for all nodes of a snapshot
(`traversal_lists_places`).
-/

namespace ComponentPasses.Snapshot

/-! ## 1. What a stack stands for -/

/-- What is on a stack comes out in pre-order, one node after the other. -/
theorem unstack_eq (stack : List Node) : unstack stack = stack.flatMap Node.nodes := by
  fun_induction unstack stack with
  | case1 => rfl
  | case2 node stack ih =>
    rw [ih, pushAll_reverse, List.flatMap_append, List.flatMap_cons, node.nodes_eq,
      List.cons_append]

theorem SourceFile.nodes_eq (file : SourceFile) : file.nodes = file.parts.flatMap Node.nodes :=
  Member.nodesOf_eq file.members

/-- The traversal of a file meets its nodes in pre-order. -/
theorem SourceFile.traversal_eq (file : SourceFile) : file.traversal = file.nodes := by
  rw [SourceFile.traversal, unstack_eq, pushAll_reverse, List.append_nil, SourceFile.nodes_eq]

/-- The nodes of a snapshot are those of its files, in pre-order. -/
theorem nodes_eq (snapshot : Snapshot) :
    snapshot.nodes = snapshot.files.flatMap (·.nodes) :=
  congrArg snapshot.files.flatMap (funext SourceFile.traversal_eq)

/-! ## 2. Places -/

/-- A place in a tree or in a row of trees: at each step, which tree or part is entered. -/
abbrev Place := List Nat

/-- What stands at a place in a row of items, where `at?` says what stands inside an item. -/
def below {α : Type} (at? : α → Place → Option Node) (items : List α) : Place → Option Node
  | [] => none
  | i :: rest => items[i]?.bind fun item => at? item rest

/-- The node that stands at a place inside a node, the node itself at the empty place. -/
def Node.at? (node : Node) : Place → Option Node
  | [] => some node
  | i :: rest => node.parts[i]?.bind fun part => part.at? rest

/-- The node that stands at a place inside a file. -/
def SourceFile.at? (file : SourceFile) : Place → Option Node :=
  below Node.at? file.parts

/-- The node that stands at a place of a snapshot, which begins with the number of a file. -/
def at? (snapshot : Snapshot) : Place → Option Node :=
  below SourceFile.at? snapshot.files

/-! ## 3. Lists that go through places -/

/-- A list of nodes goes through places: they are all there are, each comes once, and none comes
after one inside it. -/
structure Lists (at? : Place → Option Node) (nodes : List Node) (places : List Place) : Prop where
  nodes_at : nodes.map some = places.map at?
  mem_iff : ∀ place, place ∈ places ↔ (at? place).isSome
  outer_first : places.Pairwise fun earlier later => ¬ later <+: earlier

namespace Lists

variable {α : Type} {at? : α → Place → Option Node} {nodes : α → List Node}

theorem nodup {at? : Place → Option Node} {nodes : List Node} {places : List Place}
    (lists : Lists at? nodes places) : places.Nodup := by
  refine lists.outer_first.imp ?_
  rintro place _ apart rfl
  exact apart List.prefix_rfl

/-- Goes over to the next item of a row. -/
def next : Place → Place := List.modifyHead (· + 1)

theorem not_prefix_next {earlier later : Place} (apart : ¬ later <+: earlier) :
    ¬ next later <+: next earlier := by
  cases earlier with
  | nil =>
    cases later with
    | nil => exact absurd (List.prefix_refl _) apart
    | cons i rest => simp [next]
  | cons j rest' =>
    cases later with
    | nil => exact absurd (List.nil_prefix) apart
    | cons i rest => simpa [next, List.cons_prefix_cons] using apart

theorem nil : Lists (below at? []) ([].flatMap nodes) [] where
  nodes_at := rfl
  mem_iff place := by cases place <;> simp [below]
  outer_first := .nil

/-- The places of a row are those of its first item and then, one item on, those of the rest. -/
theorem cons {first : α} {rest : List α} {front back : List Place}
    (hf : Lists (at? first) (nodes first) front)
    (hb : Lists (below at? rest) (rest.flatMap nodes) back) :
    Lists (below at? (first :: rest)) ((first :: rest).flatMap nodes)
      (front.map (0 :: ·) ++ back.map next) where
  nodes_at := by
    rw [List.flatMap_cons, List.map_append, List.map_append, hf.nodes_at, hb.nodes_at,
      List.map_map, List.map_map]
    congr 1
    refine List.map_congr_left fun place known => ?_
    cases place with
    | nil => exact absurd ((hb.mem_iff []).mp known) (by simp [below])
    | cons i place => rfl
  mem_iff place := by
    rw [List.mem_append, List.mem_map, List.mem_map]
    constructor
    · rintro (⟨inner, known, rfl⟩ | ⟨other, known, rfl⟩)
      · exact (hf.mem_iff inner).mp known
      · cases other with
        | nil => exact absurd ((hb.mem_iff []).mp known) (by simp [below])
        | cons i inner => exact (hb.mem_iff (i :: inner)).mp known
    · intro stands
      match place with
      | [] => exact absurd stands (by simp [below])
      | 0 :: inner => exact .inl ⟨inner, (hf.mem_iff inner).mpr stands, rfl⟩
      | (i + 1) :: inner => exact .inr ⟨i :: inner, (hb.mem_iff (i :: inner)).mpr stands, rfl⟩
  outer_first := by
    refine List.pairwise_append.mpr ⟨?front, ?back, ?across⟩
    case front =>
      refine hf.outer_first.map _ fun earlier later apart => ?_
      rw [List.cons_prefix_cons]
      exact fun inside => apart inside.2
    case back => exact hb.outer_first.map _ fun _ _ => not_prefix_next
    case across =>
      intro earlier first later second
      obtain ⟨inner, -, rfl⟩ := List.mem_map.mp first
      obtain ⟨other, known, rfl⟩ := List.mem_map.mp second
      cases other with
      | nil => exact absurd ((hb.mem_iff []).mp known) (by simp [below])
      | cons i other => simp [next, List.cons_prefix_cons]

/-- The places of a node are its own and then those of its parts. -/
theorem node {node : Node} {places : List Place}
    (parts : Lists (below Node.at? node.parts) (node.parts.flatMap Node.nodes) places) :
    Lists node.at? node.nodes ([] :: places) where
  nodes_at := by
    rw [node.nodes_eq, List.map_cons, parts.nodes_at, List.map_cons]
    congr 1
    refine List.map_congr_left fun place known => ?_
    cases place with
    | nil => exact absurd ((parts.mem_iff []).mp known) (by simp [below])
    | cons i place => rfl
  mem_iff place := by
    cases place with
    | nil => simp [Node.at?]
    | cons i place =>
      rw [List.mem_cons, or_iff_right (List.cons_ne_nil i place), parts.mem_iff]
      rfl
  outer_first := by
    refine List.pairwise_cons.mpr ⟨fun later known inside => ?_, parts.outer_first⟩
    rw [List.prefix_nil.mp inside] at known
    exact absurd ((parts.mem_iff []).mp known) (by simp [below])

end Lists

/-- Where each item of a row lists its places, so does the row. -/
theorem exists_lists_below {α : Type} {at? : α → Place → Option Node} {nodes : α → List Node}
    {items : List α} (each : ∀ item ∈ items, ∃ places, Lists (at? item) (nodes item) places) :
    ∃ places, Lists (below at? items) (items.flatMap nodes) places := by
  induction items with
  | nil => exact ⟨[], .nil⟩
  | cons first rest ih =>
    obtain ⟨front, hf⟩ := each first List.mem_cons_self
    obtain ⟨back, hb⟩ := ih fun item later => each item (List.mem_cons_of_mem _ later)
    exact ⟨_, hf.cons hb⟩

/-- The parts of a node are smaller than the node. -/
theorem Node.length_nodes_lt {node part : Node} (h : part ∈ node.parts) :
    part.nodes.length < node.nodes.length := by
  have inside : part.nodes.Sublist (node.parts.flatMap Node.nodes) :=
    List.sublist_flatten_of_mem (List.mem_map_of_mem h)
  rw [node.nodes_eq, List.length_cons]
  exact Nat.lt_succ_of_le inside.length_le

theorem Node.exists_lists (node : Node) : ∃ places, Lists node.at? node.nodes places := by
  have each : ∀ part ∈ node.parts, ∃ places, Lists part.at? part.nodes places := by
    intro part h
    have smaller := Node.length_nodes_lt h
    exact part.exists_lists
  obtain ⟨places, parts⟩ := exists_lists_below each
  exact ⟨_, parts.node⟩
termination_by node.nodes.length

/-! ## 4. The nodes of a snapshot -/

/-- **The traversal is the pre-order.**  What the traversal yields for a snapshot is, file by file,
the pre-order of its members, and the pre-order of a node is the node and then the pre-order of each
of its parts in turn.  So it goes through all places of the snapshot, once each, and meets a node
before what is inside it. -/
theorem traversal_lists_places (snapshot : Snapshot) :
    snapshot.nodes = (snapshot.files.flatMap fun file => file.parts.flatMap Node.nodes) ∧
      (∀ node : Node, node.nodes = node :: node.parts.flatMap Node.nodes) ∧
      ∃ places : List Place, places.Nodup ∧ Lists snapshot.at? snapshot.nodes places := by
  have each : ∀ file ∈ snapshot.files, ∃ places, Lists file.at? file.nodes places := by
    intro file _
    rw [file.nodes_eq]
    exact exists_lists_below fun part _ => part.exists_lists
  obtain ⟨places, lists⟩ := exists_lists_below each
  rw [← nodes_eq] at lists
  refine ⟨?_, Node.nodes_eq, places, lists.nodup, lists⟩
  rw [nodes_eq]
  exact congrArg snapshot.files.flatMap (funext SourceFile.nodes_eq)

/-- The body of an anonymous function comes before its expression, and the expressions of another
statement before its statements. -/
example :
    (unstack [.statement (.other "if" [.lambda ["b"] (some []) (some (.literal "1")) {}]
      [.expression (.identifier "x")])]).map Node.kind =
        ["other", "lambda", "block", "literal", "expression", "identifier"] := rfl

end ComponentPasses.Snapshot

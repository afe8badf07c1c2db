import ComponentPasses.Proofs.Conflict
import Mathlib.Data.List.FinRange

/-!
# Where the members of conflict groups stand

Parameters may be equal and yet stand at different positions, as where a property is declared again
further up.  So a conflict group is more than the parameters in it: each member stands at a position
of the sequence.  `GroupedAt` says what the positions of the members are.  They are the positions of
one lowered name each (`positionsOf`), and from that all else follows: no position is lost or comes
twice, and both the members of a group and the groups among themselves keep the order of extraction
(`conflict_groups_grouped`).
-/

namespace ComponentPasses

variable {parameters : List Parameter}

/-- The positions of the members of conflict groups among parameters. -/
structure GroupedAt (parameters : List Parameter) (groups : List ConflictGroup)
    (places : List (List (Fin parameters.length))) : Prop where
  /-- The members of each group are the parameters at its positions. -/
  members : groups.map (·.members) = places.map fun place => place.map parameters.get
  /-- A group is known by the lowered name of its members, and no other group is. -/
  keyed : ∀ group ∈ groups, ∀ parameter ∈ group.members, parameter.loweredName = group.key
  keys_nodup : (groups.map (·.key)).Nodup
  several : ∀ place ∈ places, 2 ≤ place.length
  /-- Two positions are in a common group exactly if their names have the same lowered form. -/
  together : ∀ i j, (i ≠ j ∧ ∃ place ∈ places, i ∈ place ∧ j ∈ place) ↔
    i ≠ j ∧ (parameters.get i).loweredName = (parameters.get j).loweredName
  /-- No position is in two groups, or in one group twice. -/
  once : places.flatten.Nodup
  /-- Members keep the order of extraction. -/
  members_in_order : ∀ place ∈ places, place.Pairwise (· < ·)
  /-- Groups keep the order of their first members. -/
  groups_in_order : places.Pairwise fun earlier later =>
    ∃ i j, earlier.head? = some i ∧ later.head? = some j ∧ i < j

/-! ## 1. Positions of a lowered name -/

/-- The positions of the parameters that have a lowered name, in order. -/
def positionsOf (parameters : List Parameter) (key : String) : List (Fin parameters.length) :=
  (List.finRange parameters.length).filter fun i => (parameters.get i).loweredName = key

theorem mem_positionsOf {key : String} {i : Fin parameters.length} :
    i ∈ positionsOf parameters key ↔ (parameters.get i).loweredName = key := by
  simp [positionsOf]

/-- The parameters at the positions of a lowered name are those that have it. -/
theorem map_get_positionsOf (parameters : List Parameter) (key : String) :
    (positionsOf parameters key).map parameters.get = namesakes parameters key := by
  conv_rhs => rw [namesakes, ← List.map_get_finRange parameters, List.filter_map]
  rfl

theorem pairwise_positionsOf (parameters : List Parameter) (key : String) :
    (positionsOf parameters key).Pairwise (· < ·) :=
  (List.pairwise_lt_finRange _).filter _

/-- Where a lowered name first comes. -/
def firstPosition (parameters : List Parameter) (key : String) : Nat :=
  parameters.findIdx fun parameter => some parameter.loweredName == some key

theorem loweredNames_eq (parameters : List Parameter) :
    loweredNames parameters =
      (parameters.filterMap fun parameter => some parameter.loweredName).eraseDups := by
  rw [loweredNames, List.filterMap_eq_map']

theorem head?_positionsOf {key : String} (known : key ∈ loweredNames parameters) :
    ∃ i, (positionsOf parameters key).head? = some i ∧ i.val = firstPosition parameters key := by
  rw [loweredNames_eq, List.mem_eraseDups] at known
  have inside : firstPosition parameters key < parameters.length :=
    findIdx_lt_length_iff.mpr known
  refine ⟨⟨firstPosition parameters key, inside⟩, ?_, rfl⟩
  rw [positionsOf, List.head?_filter, List.find?_eq_some_iff_getElem]
  refine ⟨?here, firstPosition parameters key, by simpa using inside, by simp, ?before⟩
  case here =>
    have here := List.findIdx_getElem (w := inside)
    exact decide_eq_true (by simpa [firstPosition] using here)
  case before =>
    intro j before
    have apart := List.not_of_lt_findIdx before
    simpa using apart

/-! ## 2. The groups -/

/-- The lowered names that come more than once, in order of first appearance. -/
def repeatedNames (parameters : List Parameter) : List String :=
  (loweredNames parameters).filter fun key => 1 < (namesakes parameters key).length

/-- There is a group for each lowered name that comes more than once. -/
theorem ofParameters_eq (parameters : List Parameter) :
    ConflictGroup.ofParameters parameters =
      (repeatedNames parameters).map fun key => ⟨key, namesakes parameters key⟩ := by
  rw [ConflictGroup.ofParameters, groupByLoweredName_eq, List.filterMap_map, repeatedNames,
    ← List.filterMap_eq_map, List.filterMap_filter]
  refine List.filterMap_congr fun key _ => ?_
  simp

theorem nodup_repeatedNames (parameters : List Parameter) : (repeatedNames parameters).Nodup :=
  (nodup_loweredNames parameters).filter _

/-- Positions of different lowered names are different. -/
theorem disjoint_positionsOf {key key' : String} (apart : key ≠ key') :
    (positionsOf parameters key).Disjoint (positionsOf parameters key') := by
  intro i here there
  exact apart ((mem_positionsOf.mp here).symm.trans (mem_positionsOf.mp there))

/-- The lowered name of two positions comes more than once. -/
theorem mem_repeatedNames {i j : Fin parameters.length} (apart : i ≠ j)
    (same : (parameters.get i).loweredName = (parameters.get j).loweredName) :
    (parameters.get i).loweredName ∈ repeatedNames parameters := by
  refine List.mem_filter.mpr ⟨mem_loweredNames.mpr ⟨_, List.get_mem _ _, rfl⟩, ?_⟩
  have placed : parameters[i.val]? = some (parameters.get i) := List.getElem?_eq_getElem i.isLt
  have placed' : parameters[j.val]? = some (parameters.get j) := List.getElem?_eq_getElem j.isLt
  exact decide_eq_true ((one_lt_length_namesakes_iff placed).mpr
    ⟨j, parameters.get j, fun same => apart (Fin.ext same), placed', same⟩)

/-- **Conflict groups are the repeated lowered names.**  The conflict groups of parameters are
grouped at positions, two positions in a group exactly if they are apart and have names with the
same lowered form; and there is none exactly if the lowered names are distinct. -/
theorem conflict_groups_grouped (parameters : List Parameter) :
    (∃ places, GroupedAt parameters (ConflictGroup.ofParameters parameters) places) ∧
      (ConflictGroup.ofParameters parameters = [] ↔
        (parameters.map (·.loweredName)).Nodup) := by
  refine ⟨⟨(repeatedNames parameters).map (positionsOf parameters), ?_⟩,
    ofParameters_eq_nil_iff parameters⟩
  rw [ofParameters_eq]
  constructor
  case members =>
    rw [List.map_map, List.map_map]
    exact List.map_congr_left fun key _ => (map_get_positionsOf parameters key).symm
  case keyed =>
    rw [List.forall_mem_map]
    intro key _ parameter member
    simpa using (List.mem_filter.mp member).2
  case keys_nodup =>
    rw [List.map_map]
    exact (List.map_id _).symm ▸ nodup_repeatedNames parameters
  case several =>
    rw [List.forall_mem_map]
    intro key repeated
    rw [← List.length_map parameters.get, map_get_positionsOf]
    exact of_decide_eq_true (List.mem_filter.mp repeated).2
  case together =>
    intro i j
    refine and_congr_right fun apart => ⟨?same, fun same => ?common⟩
    case same =>
      rintro ⟨place, grouped, here, there⟩
      obtain ⟨key, -, rfl⟩ := List.mem_map.mp grouped
      exact (mem_positionsOf.mp here).trans (mem_positionsOf.mp there).symm
    case common =>
      exact ⟨_, List.mem_map_of_mem (mem_repeatedNames apart same), mem_positionsOf.mpr rfl,
        mem_positionsOf.mpr same.symm⟩
  case once =>
    refine List.nodup_flatten.mpr ⟨?each, ?across⟩
    case each =>
      rw [List.forall_mem_map]
      intro key _
      exact (pairwise_positionsOf parameters key).imp ne_of_lt
    case across =>
      exact List.Pairwise.map _ (fun _ _ => disjoint_positionsOf) (nodup_repeatedNames parameters)
  case members_in_order =>
    rw [List.forall_mem_map]
    intro key _
    exact pairwise_positionsOf parameters key
  case groups_in_order =>
    have first : (repeatedNames parameters).Pairwise fun key key' =>
        firstPosition parameters key < firstPosition parameters key' := by
      have ordered :=
        pairwise_findIdx_eraseDups (fun p : Parameter => some p.loweredName) parameters
      rw [← loweredNames_eq] at ordered
      exact ordered.filter _
    refine List.pairwise_map.mpr (first.imp_of_mem fun known known' before => ?_)
    obtain ⟨i, begins, at_i⟩ := head?_positionsOf (List.mem_of_mem_filter known)
    obtain ⟨j, begins', at_j⟩ := head?_positionsOf (List.mem_of_mem_filter known')
    refine ⟨i, j, begins, begins', ?_⟩
    rwa [Fin.lt_def, at_i, at_j]

end ComponentPasses

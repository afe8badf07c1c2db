import ComponentPasses.Conflict
import ComponentPasses.Proofs.FirstOccurrences
import Mathlib.Data.List.Induction
import Mathlib.Data.List.Nodup

/-!
# Conflict groups are the repeated lowered names

Grouping parameters is a fold that adds them one at a time; what it builds is plain: the lowered
names in order of first appearance, each with the parameters that have it
(`groupByLoweredName_eq`).  So there is a conflict group exactly where a lowered name comes twice
(`ofParameters_eq_nil_iff`), and every finding about conflicts is an error about a parameter that
shares its lowered name with another one and has a place to be shown at
(`conflictDiagnostics_ne_nil_iff`).
-/

namespace ComponentPasses

/-! ## 1. The groups -/

/-- The lowered names of parameters, each once, in order of first appearance. -/
def loweredNames (parameters : List Parameter) : List String :=
  (parameters.map (·.loweredName)).eraseDups

/-- The parameters that have a lowered name. -/
def namesakes (parameters : List Parameter) (key : String) : List Parameter :=
  parameters.filter fun parameter => parameter.loweredName = key

theorem mem_loweredNames {parameters : List Parameter} {key : String} :
    key ∈ loweredNames parameters ↔ ∃ parameter ∈ parameters, parameter.loweredName = key := by
  simp [loweredNames]

theorem loweredNames_concat (parameters : List Parameter) (parameter : Parameter) :
    loweredNames (parameters ++ [parameter]) =
      if parameter.loweredName ∈ loweredNames parameters then loweredNames parameters
      else loweredNames parameters ++ [parameter.loweredName] := by
  simp only [loweredNames, List.map_append, List.map_singleton, eraseDups_concat,
    List.mem_eraseDups]

theorem nodup_loweredNames (parameters : List Parameter) : (loweredNames parameters).Nodup :=
  nodup_eraseDups _

theorem namesakes_concat (parameters : List Parameter) (parameter : Parameter) (key : String) :
    namesakes (parameters ++ [parameter]) key =
      if parameter.loweredName = key then namesakes parameters key ++ [parameter]
      else namesakes parameters key := by
  rw [namesakes, List.filter_append]
  split <;> simp [*, namesakes]

/-- A parameter with a known lowered name joins the group of that name. -/
theorem addToGroup_of_mem {parameter : Parameter} {keys : List String}
    (groups : String → List Parameter) (nodup : keys.Nodup) (known : parameter.loweredName ∈ keys) :
    addToGroup parameter (keys.map fun key => (key, groups key)) =
      keys.map fun key =>
        (key, if parameter.loweredName = key then groups key ++ [parameter] else groups key) := by
  induction keys with
  | nil => exact absurd known List.not_mem_nil
  | cons key rest ih =>
    obtain ⟨notLater, nodup⟩ := List.nodup_cons.mp nodup
    simp only [List.map_cons, addToGroup]
    by_cases here : key = parameter.loweredName
    · subst here
      rw [if_pos rfl, if_pos rfl]
      congr 1
      refine List.map_congr_left fun key later => ?_
      rw [if_neg]
      rintro rfl
      exact notLater later
    · rw [if_neg here, if_neg (Ne.symm here), ih nodup ((List.mem_cons.mp known).resolve_left
        (Ne.symm here))]

/-- A parameter with a new lowered name begins a group. -/
theorem addToGroup_of_not_mem {parameter : Parameter} {keys : List String}
    (groups : String → List Parameter) (fresh : parameter.loweredName ∉ keys) :
    addToGroup parameter (keys.map fun key => (key, groups key)) =
      (keys.map fun key => (key, groups key)) ++ [(parameter.loweredName, [parameter])] := by
  induction keys with
  | nil => rfl
  | cons key rest ih =>
    obtain ⟨notHere, notLater⟩ := not_or.mp (mt List.mem_cons.mpr fresh)
    simp only [List.map_cons, addToGroup]
    rw [if_neg (Ne.symm notHere), ih notLater, List.cons_append]

/-- Each lowered name is grouped with the parameters that have it, in extraction order. -/
theorem groupByLoweredName_eq (parameters : List Parameter) :
    groupByLoweredName parameters =
      (loweredNames parameters).map fun key => (key, namesakes parameters key) := by
  induction parameters using List.reverseRecOn with
  | nil => rfl
  | append_singleton parameters parameter ih =>
    have step : groupByLoweredName (parameters ++ [parameter]) =
        addToGroup parameter (groupByLoweredName parameters) := by
      simp [groupByLoweredName, List.foldl_append]
    rw [step, ih, loweredNames_concat]
    simp only [namesakes_concat]
    split
    · rename_i known
      exact addToGroup_of_mem _ (nodup_loweredNames parameters) known
    · rename_i fresh
      rw [addToGroup_of_not_mem _ fresh, List.map_append]
      congr 1
      · refine List.map_congr_left fun key known => ?_
        rw [if_neg]
        rintro rfl
        exact fresh known
      · have alone : namesakes parameters parameter.loweredName = [] := by
          rw [namesakes, List.filter_eq_nil_iff]
          intro other present
          simpa using fun same => fresh (mem_loweredNames.mpr ⟨other, present, same⟩)
        simp [alone]

/-! ## 2. Conflicts -/

/-- A group holds all the parameters of a lowered name that comes more than once. -/
theorem mem_ofParameters {parameters : List Parameter} {group : ConflictGroup} :
    group ∈ ConflictGroup.ofParameters parameters ↔
      group.members = namesakes parameters group.key ∧ 1 < group.members.length := by
  simp only [ConflictGroup.ofParameters, groupByLoweredName_eq, List.mem_filterMap, List.mem_map]
  constructor
  · rintro ⟨-, ⟨key, -, rfl⟩, kept⟩
    simp only [Option.ite_none_right_eq_some, Option.some.injEq] at kept
    obtain ⟨many, rfl⟩ := kept
    exact ⟨rfl, many⟩
  · rintro ⟨members, many⟩
    obtain ⟨key, _⟩ := group
    simp only at members many
    subst members
    obtain ⟨parameter, present⟩ := List.exists_mem_of_length_pos (Nat.zero_lt_of_lt many)
    obtain ⟨present, same⟩ := List.mem_filter.mp present
    exact ⟨_, ⟨key, mem_loweredNames.mpr ⟨parameter, present, by simpa using same⟩, rfl⟩,
      if_pos many⟩

/-- The parameter at a position has namesakes exactly if another position holds one. -/
theorem one_lt_length_namesakes_iff {parameters : List Parameter} {i : Nat} {p : Parameter}
    (placed : parameters[i]? = some p) :
    1 < (namesakes parameters p.loweredName).length ↔
      ∃ j q, i ≠ j ∧ parameters[j]? = some q ∧ p.loweredName = q.loweredName := by
  let sharing := parameters.zipIdx.filter fun entry => entry.1.loweredName = p.loweredName
  have mem_sharing : ∀ q j, (q, j) ∈ sharing ↔
      parameters[j]? = some q ∧ q.loweredName = p.loweredName := by
    intro q j
    simp [sharing, List.mem_zipIdx_iff_getElem?]
  have nodup : sharing.Nodup := by
    refine List.Nodup.filter _ (List.Nodup.of_map Prod.snd ?_)
    rw [List.zipIdx_map_snd]
    exact List.nodup_range'
  have present : (p, i) ∈ sharing := (mem_sharing p i).mpr ⟨placed, rfl⟩
  have count : (namesakes parameters p.loweredName).length = (sharing.erase (p, i)).length + 1 := by
    rw [List.length_erase_add_one present, ← List.length_map Prod.fst]
    conv_lhs => rw [namesakes, ← List.zipIdx_map_fst 0 parameters, List.filter_map]
    rfl
  rw [count, Nat.lt_add_left_iff_pos, List.length_pos_iff_exists_mem]
  constructor
  · rintro ⟨⟨q, j⟩, other⟩
    obtain ⟨differs, other⟩ := nodup.mem_erase_iff.mp other
    obtain ⟨placed', same⟩ := (mem_sharing q j).mp other
    refine ⟨j, q, ?_, placed', same.symm⟩
    rintro rfl
    exact differs (by rw [Option.some.inj (placed.symm.trans placed')])
  · rintro ⟨j, q, apart, placed', same⟩
    refine ⟨(q, j), nodup.mem_erase_iff.mpr ⟨?_, (mem_sharing q j).mpr ⟨placed', same.symm⟩⟩⟩
    rintro ⟨rfl, rfl⟩
    exact apart rfl

/-- A member of a group shares its lowered name with a parameter at another position. -/
theorem exists_shared_of_mem_members {parameters : List Parameter} {group : ConflictGroup}
    (conflict : group ∈ ConflictGroup.ofParameters parameters) {p : Parameter}
    (member : p ∈ group.members) :
    ∃ (i j : Nat) (q : Parameter), i ≠ j ∧ parameters[i]? = some p ∧ parameters[j]? = some q ∧
      p.loweredName = q.loweredName := by
  obtain ⟨members, many⟩ := mem_ofParameters.mp conflict
  rw [members] at member many
  obtain ⟨present, same⟩ := List.mem_filter.mp member
  obtain ⟨i, placed⟩ := List.mem_iff_getElem?.mp present
  rw [← of_decide_eq_true same] at many
  obtain ⟨j, q, apart, placed', shared⟩ := (one_lt_length_namesakes_iff placed).mp many
  exact ⟨i, j, q, apart, placed, placed', shared⟩

/-- Parameters at two positions that share a lowered name make a group. -/
theorem mem_ofParameters_of_shared {parameters : List Parameter} {i j : Nat} {p q : Parameter}
    (apart : i ≠ j) (placed : parameters[i]? = some p) (placed' : parameters[j]? = some q)
    (shared : p.loweredName = q.loweredName) :
    ⟨p.loweredName, namesakes parameters p.loweredName⟩ ∈ ConflictGroup.ofParameters parameters :=
  mem_ofParameters.mpr
    ⟨rfl, (one_lt_length_namesakes_iff placed).mpr ⟨j, q, apart, placed', shared⟩⟩

/-- There is no conflict exactly if the lowered names are distinct. -/
theorem ofParameters_eq_nil_iff (parameters : List Parameter) :
    ConflictGroup.ofParameters parameters = [] ↔ (parameters.map (·.loweredName)).Nodup := by
  constructor
  · intro free
    refine List.nodup_iff_getElem?_ne_getElem?.mpr fun i j before inside same => ?_
    rw [List.length_map] at inside
    have placed := List.getElem?_eq_getElem (Nat.lt_trans before inside)
    have placed' := List.getElem?_eq_getElem inside
    rw [List.getElem?_map, List.getElem?_map, placed, placed'] at same
    have conflict := mem_ofParameters_of_shared (Nat.ne_of_lt before) placed placed'
      (Option.some.inj same)
    rw [free] at conflict
    exact List.not_mem_nil conflict
  · intro distinct
    refine List.eq_nil_iff_forall_not_mem.mpr fun group conflict => ?_
    have many := (mem_ofParameters.mp conflict).2
    obtain ⟨p, member⟩ := List.exists_mem_of_length_pos (Nat.zero_lt_of_lt many)
    obtain ⟨i, j, q, apart, placed, placed', shared⟩ :=
      exists_shared_of_mem_members conflict member
    obtain ⟨inside, -⟩ := List.getElem?_eq_some_iff.mp placed
    rw [← List.length_map (·.loweredName)] at inside
    refine apart ((List.getElem?_inj inside distinct).mp ?_)
    rw [List.getElem?_map, List.getElem?_map, placed, placed']
    exact congrArg some shared

/-! ## 3. Findings -/

/-- What is found about conflicts is an error. -/
theorem isError_of_mem_conflictDiagnostics {parameters : List Parameter} {diagnostic : Diagnostic}
    (h : diagnostic ∈ conflictDiagnostics parameters) : diagnostic.isError = true := by
  obtain ⟨group, -, h⟩ := List.mem_flatMap.mp h
  obtain ⟨entry, -, h⟩ := List.mem_flatMap.mp h
  obtain ⟨location, -, rfl⟩ := List.mem_map.mp h
  rfl

/-- Something is found exactly if a parameter that is declared somewhere shares its lowered name
with a parameter at another position. -/
theorem conflictDiagnostics_ne_nil_iff (parameters : List Parameter) :
    conflictDiagnostics parameters ≠ [] ↔
      ∃ (i j : Nat) (p q : Parameter), i ≠ j ∧ parameters[i]? = some p ∧
        parameters[j]? = some q ∧ p.loweredName = q.loweredName ∧ p.locations ≠ [] := by
  constructor
  · intro found
    obtain ⟨diagnostic, found⟩ := List.exists_mem_of_ne_nil _ found
    obtain ⟨group, conflict, found⟩ := List.mem_flatMap.mp found
    obtain ⟨⟨p, index⟩, member, found⟩ := List.mem_flatMap.mp found
    obtain ⟨location, declared, -⟩ := List.mem_map.mp found
    obtain ⟨i, j, q, apart, placed, placed', shared⟩ :=
      exists_shared_of_mem_members conflict (List.fst_mem_of_mem_zipIdx member)
    exact ⟨i, j, p, q, apart, placed, placed', shared, List.ne_nil_of_mem declared⟩
  · rintro ⟨i, j, p, q, apart, placed, placed', shared, declared⟩
    obtain ⟨location, declared⟩ := List.exists_mem_of_ne_nil _ declared
    have conflict := mem_ofParameters_of_shared apart placed placed' shared
    have member : p ∈ namesakes parameters p.loweredName :=
      List.mem_filter.mpr ⟨List.mem_of_getElem? placed, by simp⟩
    obtain ⟨index, indexed⟩ := List.mem_iff_getElem?.mp member
    refine List.ne_nil_of_mem (List.mem_flatMap.mpr ⟨_, conflict, List.mem_flatMap.mpr
      ⟨(p, index), List.mem_zipIdx_iff_getElem?.mpr indexed, List.mem_map_of_mem declared⟩⟩)

end ComponentPasses

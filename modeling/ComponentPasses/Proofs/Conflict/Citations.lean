import ComponentPasses.Proofs.Conflict
import Mathlib.Data.List.Forall2

/-!
# What is reported about conflicts

A finding about conflicts has an **origin**: a conflict group, a member of it, and a place where
that member is declared, each by its number.  The findings are in the order of their origins, and
every origin has exactly one (`conflictDiagnostics_cite`).

A finding names its member first and then **cites** a name against it, the name of another member
of the group.  The choice comes in two steps: the first member that is spelled differently, or if
there is none, the first other one (`ConflictGroup.cites_citedName`).  So a different spelling is
cited wherever the group holds one, and two members alone in a group cite each other.
-/

namespace ComponentPasses

/-! ## 1. Citations -/

namespace ConflictGroup

/-- What may be cited against the member of a group with the given index. -/
structure Cites (group : ConflictGroup) (index : Nat) (parameter : Parameter) (cited : String) :
    Prop where
  /-- It is the name of another member, and the lowered names agree. -/
  other : ∃ (j : Nat) (q : Parameter), j ≠ index ∧ group.members[j]? = some q ∧ q.name = cited ∧
    q.loweredName = parameter.loweredName
  /-- It is spelled differently exactly if the group holds two spellings. -/
  differs_iff : cited ≠ parameter.name ↔
    ∃ q ∈ group.members, ∃ r ∈ group.members, q.name ≠ r.name
  /-- A different spelling is that of the first member with one. -/
  first : cited ≠ parameter.name → ∃ (j : Nat) (q : Parameter), group.members[j]? = some q ∧
    q.name = cited ∧ ∀ (k : Nat) (r : Parameter), k < j → group.members[k]? = some r →
      r.name = parameter.name

section CitedName

variable {group : ConflictGroup} {index : Nat} {parameter : Parameter}

/-- Where a member is spelled differently, the first such member is cited. -/
theorem citedName_of_different {q : Parameter} (placed : group.members[index]? = some parameter)
    (present : q ∈ group.members) (different : q.name ≠ parameter.name) :
    ∃ (j : Nat) (r : Parameter), j ≠ index ∧ group.members[j]? = some r ∧
      r.name = group.citedName index parameter ∧ r.name ≠ parameter.name ∧
      ∀ (k : Nat) (s : Parameter), k < j → group.members[k]? = some s →
        s.name = parameter.name := by
  cases found : group.members.find? (·.name ≠ parameter.name) with
  | none =>
    have none := List.find?_eq_none.mp found q present
    exact absurd different (by simpa using none)
  | some r =>
    obtain ⟨spelled, j, inside, here, before⟩ := List.find?_eq_some_iff_getElem.mp found
    have spelled : r.name ≠ parameter.name := by simpa using spelled
    have placed' : group.members[j]? = some r := by rw [List.getElem?_eq_getElem inside, here]
    refine ⟨j, r, ?apart, placed', by rw [citedName, found], spelled, ?earlier⟩
    case apart =>
      rintro rfl
      exact spelled (congrArg Parameter.name (Option.some.inj (placed'.symm.trans placed)))
    case earlier =>
      intro k s earlier at_k
      obtain ⟨_, rfl⟩ := List.getElem?_eq_some_iff.mp at_k
      simpa using before k earlier

/-- Where all members are spelled alike, another one is cited, and there is one in a group. -/
theorem citedName_of_alike (many : 1 < group.members.length)
    (alike : ∀ q ∈ group.members, q.name = parameter.name) :
    ∃ (j : Nat) (r : Parameter), j ≠ index ∧ group.members[j]? = some r ∧
      r.name = group.citedName index parameter := by
  have none : group.members.find? (·.name ≠ parameter.name) = none :=
    List.find?_eq_none.mpr fun q present => by simpa using alike q present
  cases found : group.members.zipIdx.find? (·.2 ≠ index) with
  | none =>
    -- of the first two members one is not at the index
    have at_index : ∀ j < group.members.length, j = index := by
      intro j inside
      have entry : (group.members[j], j) ∈ group.members.zipIdx :=
        List.mem_zipIdx_iff_getElem?.mpr (List.getElem?_eq_getElem inside)
      simpa using List.find?_eq_none.mp found _ entry
    exact absurd ((at_index 0 (by omega)).trans (at_index 1 many).symm) (by decide)
  | some entry =>
    have apart := List.find?_some found
    exact ⟨entry.2, entry.1, by simpa using apart,
      List.mem_zipIdx_iff_getElem?.mp (List.mem_of_find?_eq_some found), by
        rw [citedName, none, found]⟩

/-- In a group of two or more members that share their lowered name, what is cited may be cited. -/
theorem cites_citedName (many : 1 < group.members.length)
    (shared : ∀ q ∈ group.members, q.loweredName = group.key)
    (placed : group.members[index]? = some parameter) :
    group.Cites index parameter (group.citedName index parameter) := by
  have present : parameter ∈ group.members := List.mem_of_getElem? placed
  have lowered : ∀ (j : Nat) (q : Parameter), group.members[j]? = some q →
      q.loweredName = parameter.loweredName := fun j q placed' =>
    (shared q (List.mem_of_getElem? placed')).trans (shared parameter present).symm
  by_cases alike : ∀ q ∈ group.members, q.name = parameter.name
  · obtain ⟨j, r, apart, placed', cited⟩ :
        ∃ (j : Nat) (r : Parameter), j ≠ index ∧ group.members[j]? = some r ∧
          r.name = group.citedName index parameter := citedName_of_alike many alike
    have same := alike r (List.mem_of_getElem? placed')
    refine ⟨⟨j, r, apart, placed', cited, lowered j r placed'⟩,
      iff_of_false (fun differs => differs (cited ▸ same)) ?_, fun differs =>
        absurd (cited ▸ same) differs⟩
    rintro ⟨q, hq, s, hs, differ⟩
    exact differ ((alike q hq).trans (alike s hs).symm)
  · obtain ⟨q, hq, different⟩ : ∃ q ∈ group.members, q.name ≠ parameter.name := by
      simpa using alike
    obtain ⟨j, r, apart, placed', cited, spelled, earlier⟩ :=
      citedName_of_different placed hq different
    exact ⟨⟨j, r, apart, placed', cited, lowered j r placed'⟩,
      iff_of_true (cited ▸ spelled) ⟨q, hq, parameter, present, different⟩,
      fun _ => ⟨j, r, placed', cited, earlier⟩⟩

end CitedName

end ConflictGroup

/-! ## 2. Origins -/

/-- The numbers of a group, of a member of it and of a place where that is declared, in order. -/
def origins (groups : List ConflictGroup) : List (Nat × Nat × Nat) :=
  groups.zipIdx.flatMap fun (group, g) =>
    group.members.zipIdx.flatMap fun (parameter, m) =>
      parameter.locations.zipIdx.map fun (_, l) => (g, m, l)

variable {groups : List ConflictGroup}

theorem mem_origins {g m l : Nat} :
    (g, m, l) ∈ origins groups ↔ ∃ group parameter location, groups[g]? = some group ∧
      group.members[m]? = some parameter ∧ parameter.locations[l]? = some location := by
  simp only [origins, List.mem_flatMap, List.mem_map, Prod.exists, List.mem_zipIdx_iff_getElem?,
    Prod.mk.injEq]
  constructor
  · rintro ⟨group, _, grouped, parameter, _, member, location, _, declared, rfl, rfl, rfl⟩
    exact ⟨group, parameter, location, grouped, member, declared⟩
  · rintro ⟨group, parameter, location, grouped, member, declared⟩
    exact ⟨group, g, grouped, parameter, m, member, location, l, declared, rfl, rfl, rfl⟩

/-- The items of a list are numbered in order. -/
theorem pairwise_zipIdx {α : Type} (items : List α) :
    items.zipIdx.Pairwise fun first second => first.2 < second.2 := by
  rw [← List.pairwise_map (f := Prod.snd) (R := (· < ·)), List.zipIdx_map_snd]
  exact List.pairwise_lt_range'

theorem pairwise_origins (groups : List ConflictGroup) :
    (origins groups).Pairwise (Prod.Lex (· < ·) (Prod.Lex (· < ·) (· < ·))) := by
  refine List.pairwise_flatMap.mpr ⟨?inGroup, (pairwise_zipIdx groups).imp ?acrossGroups⟩
  case inGroup =>
    rintro ⟨group, g⟩ -
    refine List.pairwise_flatMap.mpr ⟨?inMember, (pairwise_zipIdx group.members).imp ?acrossMembers⟩
    case inMember =>
      rintro ⟨parameter, m⟩ -
      exact List.pairwise_map.mpr ((pairwise_zipIdx parameter.locations).imp fun before =>
        .right _ (.right _ before))
    case acrossMembers =>
      rintro ⟨_, m⟩ ⟨_, m'⟩ before x hx y hy
      obtain ⟨_, -, rfl⟩ := List.mem_map.mp hx
      obtain ⟨_, -, rfl⟩ := List.mem_map.mp hy
      exact .right _ (.left _ _ before)
  case acrossGroups =>
    rintro ⟨_, g⟩ ⟨_, g'⟩ before x hx y hy
    obtain ⟨_, -, hx⟩ := List.mem_flatMap.mp hx
    obtain ⟨_, -, hy⟩ := List.mem_flatMap.mp hy
    obtain ⟨_, -, rfl⟩ := List.mem_map.mp hx
    obtain ⟨_, -, rfl⟩ := List.mem_map.mp hy
    exact .left _ _ before

/-! ## 3. Findings -/

/-- What a finding of the given origin is: an error of the conflict rule at the place of the origin,
which names the member and cites a name against it. -/
def Reports (groups : List ConflictGroup) (origin : Nat × Nat × Nat) (diagnostic : Diagnostic) :
    Prop :=
  ∃ group parameter location cited, groups[origin.1]? = some group ∧
    group.members[origin.2.1]? = some parameter ∧
    parameter.locations[origin.2.2]? = some location ∧
    group.Cites origin.2.1 parameter cited ∧
    diagnostic.id = "BB0001" ∧ diagnostic.severity = .error ∧ diagnostic.locations = [location] ∧
    diagnostic.message =
      "Parameter names are case insensitive. " ++ parameter.name ++ " conflicts with " ++ cited

theorem forall₂_flatMap {α β γ : Type} {related : β → γ → Prop} {items : List α}
    {front : α → List β} {back : α → List γ}
    (each : ∀ item ∈ items, List.Forall₂ related (front item) (back item)) :
    List.Forall₂ related (items.flatMap front) (items.flatMap back) := by
  induction items with
  | nil => exact .nil
  | cons item rest ih =>
    obtain ⟨first, others⟩ := List.forall_mem_cons.mp each
    exact List.rel_append first (ih others)

section Numbered

variable {α β : Type} (items : List α)

theorem map_eq_zipIdx (f : α → β) : items.map f = items.zipIdx.map fun entry => f entry.1 := by
  conv_lhs => rw [← List.zipIdx_map_fst 0 items, List.map_map]
  rfl

theorem flatMap_eq_zipIdx (listOf : α → List β) :
    items.flatMap listOf = items.zipIdx.flatMap fun entry => listOf entry.1 := by
  conv_lhs => rw [← List.zipIdx_map_fst 0 items, List.flatMap_map]

end Numbered

/-- The findings about groups report their origins, one after the other. -/
theorem reports_diagnostics (many : ∀ group ∈ groups, 1 < group.members.length)
    (shared : ∀ group ∈ groups, ∀ q ∈ group.members, q.loweredName = group.key) :
    List.Forall₂ (Reports groups) (origins groups)
      (groups.flatMap (·.diagnostics)) := by
  rw [flatMap_eq_zipIdx, origins]
  refine forall₂_flatMap ?_
  rintro ⟨group, g⟩ grouped
  have grouped := List.mem_zipIdx_iff_getElem?.mp grouped
  have known : group ∈ groups := List.mem_of_getElem? grouped
  rw [ConflictGroup.diagnostics]
  refine forall₂_flatMap ?_
  rintro ⟨parameter, m⟩ member
  have member := List.mem_zipIdx_iff_getElem?.mp member
  have cites := ConflictGroup.cites_citedName (many group known) (shared group known) member
  dsimp only
  rw [map_eq_zipIdx parameter.locations fun location => Diagnostic.nameConflict location _ _,
    List.forall₂_map_left_iff, List.forall₂_map_right_iff, List.forall₂_same]
  rintro ⟨location, l⟩ declared
  exact ⟨group, parameter, location, _, grouped, member,
    List.mem_zipIdx_iff_getElem?.mp declared, cites, rfl, rfl, rfl, rfl⟩

/-- Alone in a group, two members cite each other. -/
theorem ConflictGroup.Cites.of_pair {key : String} {p q r : Parameter} {index : Nat}
    {cited : String} (cites : ConflictGroup.Cites ⟨key, [p, q]⟩ index r cited) :
    (index = 0 → cited = q.name) ∧ (index = 1 → cited = p.name) := by
  obtain ⟨j, other, apart, placed, rfl, -⟩ := cites.other
  constructor
  · rintro rfl
    match j, placed with
    | 0, _ => exact absurd rfl apart
    | 1, placed => exact congrArg Parameter.name (Option.some.inj placed).symm
  · rintro rfl
    match j, placed with
    | 0, placed => exact congrArg Parameter.name (Option.some.inj placed).symm
    | 1, _ => exact absurd rfl apart

/-- **Every member is reported against another one.**  A group holds the parameters of a lowered
name as they were extracted.  The findings about the conflicts of parameters are in the order of
their origins, one for each, and each is an error that names its member and cites another member of
the same group against it, spelled differently wherever the group holds two spellings.  Two members
alone in a group cite each other. -/
theorem conflictDiagnostics_cite (parameters : List Parameter) :
    (∀ group ∈ ConflictGroup.ofParameters parameters,
      group.members = namesakes parameters group.key) ∧
    (∃ origins : List (Nat × Nat × Nat),
      origins.Pairwise (Prod.Lex (· < ·) (Prod.Lex (· < ·) (· < ·))) ∧
        (∀ g m l, (g, m, l) ∈ origins ↔ ∃ group parameter location,
          (ConflictGroup.ofParameters parameters)[g]? = some group ∧
            group.members[m]? = some parameter ∧ parameter.locations[l]? = some location) ∧
        List.Forall₂ (Reports (ConflictGroup.ofParameters parameters)) origins
          (conflictDiagnostics parameters)) ∧
      ∀ (g : Nat) (key : String) (p q : Parameter),
        (ConflictGroup.ofParameters parameters)[g]? = some ⟨key, [p, q]⟩ →
          ∀ (l : Nat) (diagnostic : Diagnostic),
            (Reports (ConflictGroup.ofParameters parameters) (g, 0, l) diagnostic →
              diagnostic.message = "Parameter names are case insensitive. " ++ p.name ++
                " conflicts with " ++ q.name) ∧
            (Reports (ConflictGroup.ofParameters parameters) (g, 1, l) diagnostic →
              diagnostic.message = "Parameter names are case insensitive. " ++ q.name ++
                " conflicts with " ++ p.name) := by
  refine ⟨fun group conflict => (mem_ofParameters.mp conflict).1,
    ⟨origins (ConflictGroup.ofParameters parameters), pairwise_origins _, fun g m l => mem_origins,
      reports_diagnostics ?many ?shared⟩, ?pairs⟩
  case many =>
    intro group conflict
    exact (mem_ofParameters.mp conflict).2
  case shared =>
    intro group conflict q member
    rw [(mem_ofParameters.mp conflict).1] at member
    simpa using (List.mem_filter.mp member).2
  case pairs =>
    intro g key p q grouped l diagnostic
    constructor
    · rintro ⟨group, parameter, _, cited, grouped', member, -, cites, -, -, -, message⟩
      obtain rfl := Option.some.inj (grouped.symm.trans grouped')
      obtain rfl := Option.some.inj member
      rw [message, cites.of_pair.1 rfl]
    · rintro ⟨group, parameter, _, cited, grouped', member, -, cites, -, -, -, message⟩
      obtain rfl := Option.some.inj (grouped.symm.trans grouped')
      obtain rfl := Option.some.inj member
      rw [message, cites.of_pair.2 rfl]

end ComponentPasses

import ComponentPasses.Proofs.Hierarchy
import Mathlib.Data.List.Chain

/-!
# The chain is the longest one without repeats

A **base chain** of a type starts with it, goes from each type to what the compilation answers for
its base, and has no metadata name twice.  There may be cycles among the bases, and a type may be
its own base; but each type has at most one base, so the base chains of a type are the beginnings of
a single one.  That one is what climbing finds (`chain_maximal`): it goes on as long as it can
(`prefix_bases`), and where it stops there is no way on (`ending_climb`).

All of it is shown for a climb from any type with any names met so far, by the recursion of the
climb.  The names met are kept apart from those of the bases still to come (`nodup_climb`).
-/

namespace ComponentPasses.Hierarchy

open Snapshot (Compilation DeclaredType given?)

/-! ## 1. Base chains -/

/-- A type names a base: there is a reference, and it is not empty. -/
def NamesBase (type : DeclaredType) (reference : String) : Prop :=
  type.base? = some reference ∧ reference ≠ ""

/-- The base of a type is the type that the compilation knows by the key of the reference. -/
def HasBase (compilation : Compilation) (type base : DeclaredType) : Prop :=
  ∃ reference, NamesBase type reference ∧ compilation.type? (baseKey reference) = some base ∧
    base.metadataName = baseKey reference

/-- Types that begin with a given one and go from base to base, none under a name met before. -/
structure BaseChain (compilation : Compilation) (type : DeclaredType)
    (types : List DeclaredType) : Prop where
  starts : types.head? = some type
  distinct : (types.map (·.metadataName)).Nodup
  climbs : types.IsChain (HasBase compilation)

/-- Why a climb stops at a type when some names have been met: no base is named, or it is not
declared, or it has one of the names and is the base that comes again. -/
inductive Ending (compilation : Compilation) (met : List String) (last : DeclaredType) :
    Option DeclaredType → Prop
  | unnamed (none : last.base? = none ∨ last.base? = some "") : Ending compilation met last .none
  | undeclared {reference : String} (names : NamesBase last reference)
      (missing : compilation.type? (baseKey reference) = none) : Ending compilation met last none
  | repeated {reference : String} {base : DeclaredType} (names : NamesBase last reference)
      (found : compilation.type? (baseKey reference) = some base)
      (again : base.metadataName ∈ met) : Ending compilation met last (some base)

theorem Ending.mono {compilation : Compilation} {met met' : List String} {last : DeclaredType}
    {repeated : Option DeclaredType} (more : met ⊆ met')
    (ending : Ending compilation met last repeated) : Ending compilation met' last repeated := by
  cases ending with
  | unnamed none => exact .unnamed none
  | undeclared names missing => exact .undeclared names missing
  | repeated names found again => exact .repeated names found (more again)

theorem baseKey?_eq_none_iff {type : DeclaredType} :
    type.baseKey? = none ↔ type.base? = none ∨ type.base? = some "" := by
  rw [DeclaredType.baseKey?, Option.map_eq_none_iff, given?, Option.filter_eq_none_iff]
  cases type.base? <;> simp

theorem baseKey?_eq_some_iff {type : DeclaredType} {key : String} :
    type.baseKey? = some key ↔ ∃ reference, NamesBase type reference ∧ baseKey reference = key := by
  simp [DeclaredType.baseKey?, given?, NamesBase, Option.filter_eq_some_iff]

/-- The types of a compilation are known by their own metadata names. -/
def Named (compilation : Compilation) : Prop :=
  ∀ key type, compilation.type? key = some type → type.metadataName = key

theorem named_ofSnapshot (snapshot : Snapshot) : Named (.ofSnapshot snapshot) :=
  fun _ _ found => Snapshot.metadataName_of_type? found

/-! ## 2. Climbing -/

section Climb

variable {compilation : Compilation} (named : Named compilation)
include named

theorem isChain_climb (seen : List String) (type : DeclaredType) :
    (type :: (climb compilation seen type).bases).IsChain (HasBase compilation) := by
  fun_induction climb compilation seen type with
  | case1 | case2 | case3 => exact List.isChain_singleton _
  | case4 seen type key names base found fresh above ih =>
    obtain ⟨reference, written, rfl⟩ := baseKey?_eq_some_iff.mp names
    exact List.isChain_cons_cons.mpr ⟨⟨reference, written, found, named _ _ found⟩, ih⟩

/-- The bases have names of their own, and none that has been met. -/
theorem nodup_climb (seen : List String) (type : DeclaredType) (distinct : seen.Nodup) :
    ((climb compilation seen type).bases.map (·.metadataName) ++ seen).Nodup := by
  fun_induction climb compilation seen type with
  | case1 | case2 | case3 => exact distinct
  | case4 seen type key names base found fresh above ih =>
    have new : key ∉ seen := by simpa using fresh
    have apart := ih (List.nodup_cons.mpr ⟨new, distinct⟩)
    rw [List.map_cons, named _ _ found]
    exact (List.perm_middle.nodup_iff).mp apart

/-- A climb stops where there is no way on. -/
theorem ending_climb (seen : List String) (type : DeclaredType) :
    ∃ last, (type :: (climb compilation seen type).bases).getLast? = some last ∧
      Ending compilation ((climb compilation seen type).bases.map (·.metadataName) ++ seen) last
        (climb compilation seen type).repeated := by
  fun_induction climb compilation seen type with
  | case1 seen type none => exact ⟨type, rfl, .unnamed (baseKey?_eq_none_iff.mp none)⟩
  | case2 seen type key names undeclared =>
    obtain ⟨reference, written, rfl⟩ := baseKey?_eq_some_iff.mp names
    exact ⟨type, rfl, .undeclared written undeclared⟩
  | case3 seen type key names base found again =>
    obtain ⟨reference, written, rfl⟩ := baseKey?_eq_some_iff.mp names
    refine ⟨type, rfl, .repeated written found ?_⟩
    rw [named _ _ found]
    simpa using again
  | case4 seen type key names base found fresh above ih =>
    obtain ⟨last, ends, ending⟩ := ih
    refine ⟨last, (List.getLast?_cons_cons).trans ends, ?_⟩
    rw [List.map_cons, named _ _ found]
    exact ending.mono List.perm_middle.subset

omit named in
/-- A climb goes on as long as a chain without repeats does. -/
theorem prefix_bases (seen : List String) (type : DeclaredType) (types : List DeclaredType)
    (climbs : (type :: types).IsChain (HasBase compilation))
    (distinct : (types.map (·.metadataName) ++ seen).Nodup) :
    types <+: (climb compilation seen type).bases := by
  induction types generalizing seen type with
  | nil => exact List.nil_prefix
  | cons base types ih =>
    obtain ⟨⟨reference, written, found, name⟩, climbs⟩ := List.isChain_cons_cons.mp climbs
    rw [List.map_cons, List.cons_append, name] at distinct
    have new : baseKey reference ∉ seen := fun known =>
      (List.nodup_cons.mp distinct).1 (List.mem_append_right _ known)
    rw [climb_of_declared (baseKey?_eq_some_iff.mpr ⟨reference, written, rfl⟩) found,
      if_neg (by simpa using new)]
    exact List.cons_prefix_cons.mpr ⟨rfl, ih _ _ climbs (List.perm_middle.nodup_iff.mpr distinct)⟩

end Climb

/-! ## 3. The chain of a type -/

/-- The beginning of a base chain is one. -/
theorem BaseChain.of_prefix {compilation : Compilation} {type : DeclaredType}
    {types front : List DeclaredType} (chain : BaseChain compilation type types)
    (nonempty : front ≠ []) (begins : front <+: types) : BaseChain compilation type front := by
  refine ⟨?starts, ?distinct, chain.climbs.prefix begins⟩
  case starts =>
    rw [← chain.starts]
    obtain ⟨rest, rfl⟩ := begins
    exact (List.head?_append_of_ne_nil front nonempty).symm
  case distinct => exact chain.distinct.sublist (begins.map _).sublist

theorem baseChain_chain (snapshot : Snapshot) (type : DeclaredType) :
    BaseChain (.ofSnapshot snapshot) type (ofType (.ofSnapshot snapshot) type).chain where
  starts := rfl
  distinct := by
    have apart := nodup_climb (named_ofSnapshot snapshot) [type.metadataName] type
      (List.nodup_singleton _)
    exact List.perm_append_singleton _ _ |>.nodup_iff.mp apart
  climbs := isChain_climb (named_ofSnapshot snapshot) _ type

/-- **The chain of a type is the longest base chain.**  It is a base chain, and the base chains of
the type are its beginnings.  It stops at a type that names no base, at one whose base is not
declared in the snapshot, or at one whose base has a name that came before; and there is a warning,
one, exactly in the last case. -/
theorem chain_maximal (snapshot : Snapshot) (type : DeclaredType) :
    let compilation := Compilation.ofSnapshot snapshot
    let hierarchy := ofType compilation type
    BaseChain compilation type hierarchy.chain ∧
      (∀ types, BaseChain compilation type types ↔ types ≠ [] ∧ types <+: hierarchy.chain) ∧
      ∃ last, hierarchy.chain.getLast? = some last ∧
        ((last.base? = none ∨ last.base? = some "") ∧ hierarchy.warnings = [] ∨
          (∃ reference, NamesBase last reference ∧
            (∀ declared ∈ snapshot.types, declared.metadataName ≠ baseKey reference) ∧
            hierarchy.warnings = []) ∨
          ∃ reference base, NamesBase last reference ∧
            compilation.type? (baseKey reference) = some base ∧
            base.metadataName ∈ hierarchy.chain.map (·.metadataName) ∧
            hierarchy.warnings = [⟨.warning, "Cyclic base type chain at '" ++ base.qualifiedName ++
              "' (from '" ++ type.qualifiedName ++ "')."⟩]) := by
  intro compilation hierarchy
  have chain := baseChain_chain snapshot type
  refine ⟨chain, fun types => ⟨?longest, fun ⟨nonempty, begins⟩ =>
    chain.of_prefix nonempty begins⟩, ?stops⟩
  case longest =>
    rintro ⟨starts, distinct, climbs⟩
    cases types with
    | nil => cases starts
    | cons first rest =>
      obtain rfl : first = type := Option.some.inj starts
      refine ⟨List.cons_ne_nil _ _, List.cons_prefix_cons.mpr ⟨rfl, ?_⟩⟩
      exact prefix_bases _ first rest climbs
        ((List.perm_append_singleton _ _).nodup_iff.mpr distinct)
  case stops =>
    obtain ⟨last, ends, ending⟩ := ending_climb (named_ofSnapshot snapshot) [type.metadataName] type
    refine ⟨last, ends, ?_⟩
    have ending : Ending compilation (hierarchy.chain.map (·.metadataName)) last
        hierarchy.repeated := ending.mono (List.perm_append_singleton _ _).subset
    unfold warnings
    generalize hierarchy.repeated = repeated at ending ⊢
    cases ending with
    | unnamed none => exact .inl ⟨none, rfl⟩
    | undeclared names missing =>
      rw [Compilation.type?_ofSnapshot, List.find?_eq_none] at missing
      exact .inr (.inl ⟨_, names, by simpa using missing, rfl⟩)
    | repeated names found again => exact .inr (.inr ⟨_, _, names, found, again, rfl⟩)

/-- A type over one that is its own base: each comes once, and there is one warning. -/
example :
    let board : DeclaredType := { name := "Board", base? := some "Grid" }
    let grid : DeclaredType := { name := "Grid", base? := some " Grid" }
    let hierarchy := ofType (.ofSnapshot { types := [board, grid] }) board
    hierarchy.chain = [board, grid] ∧ hierarchy.warnings =
      [⟨.warning, "Cyclic base type chain at 'Grid' (from 'Board')."⟩] := by
  decide +kernel

end ComponentPasses.Hierarchy

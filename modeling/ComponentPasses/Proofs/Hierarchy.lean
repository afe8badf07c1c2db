import ComponentPasses.Hierarchy
import ComponentPasses.Proofs.Snapshot.Unlocated

/-!
# The chain of bases

Climbing from a type looks up its base and goes on from there.  There are four ways it can turn out,
and each is one equation: the type names no base, its base is not declared, its base came before, or
the base is new and the climb goes on from it.

All that decides the climb is what types say about themselves and what the compilation answers for
their bases.  Neither depends on where a type is declared, so compilations that declare the same
types but for that give the same chains but for that (`map_unlocated_chain`).
-/

namespace ComponentPasses.Hierarchy

open Snapshot (Compilation DeclaredType)

variable {compilation compilation' : Compilation} {seen : List String} {type base : DeclaredType}
  {key : String}

/-! ## 1. One step up -/

theorem climb_of_no_base (none : type.baseKey? = .none) :
    climb compilation seen type = ⟨[], .none⟩ := by
  rw [climb]
  split
  · rfl
  · rename_i some
    rw [none] at some
    cases some

theorem climb_of_undeclared (names : type.baseKey? = some key)
    (undeclared : compilation.type? key = none) : climb compilation seen type = ⟨[], none⟩ := by
  rw [climb]
  split
  · rfl
  · rename_i key' names'
    obtain rfl : key' = key := Option.some.inj (names'.symm.trans names)
    split
    · rfl
    · rename_i found
      rw [undeclared] at found
      cases found

theorem climb_of_declared (names : type.baseKey? = some key)
    (found : compilation.type? key = some base) :
    climb compilation seen type =
      if seen.contains key then ⟨[], some base⟩
      else
        let above := climb compilation (key :: seen) base
        ⟨base :: above.bases, above.repeated⟩ := by
  rw [climb]
  split
  · rename_i none
    rw [names] at none
    cases none
  · rename_i key' names'
    obtain rfl : key' = key := Option.some.inj (names'.symm.trans names)
    split
    · rename_i undeclared
      rw [found] at undeclared
      cases undeclared
    · rename_i base' found'
      obtain rfl : base' = base := Option.some.inj (found'.symm.trans found)
      split <;> rfl

/-! ## 2. Locations do not matter -/

/-- Types that are alike but for locations name the same base. -/
theorem baseKey?_of_alike {type' : DeclaredType} (alike : type.unlocated = type'.unlocated) :
    type.baseKey? = type'.baseKey? := by
  show type.unlocated.baseKey? = type'.unlocated.baseKey?
  rw [alike]

theorem metadataName_of_alike {type' : DeclaredType} (alike : type.unlocated = type'.unlocated) :
    type.metadataName = type'.metadataName := by
  rw [← DeclaredType.metadataName_unlocated, alike, DeclaredType.metadataName_unlocated]

theorem map_unlocated_bases (same : compilation.SameTypes compilation') (seen : List String)
    (type type' : DeclaredType) (alike : type.unlocated = type'.unlocated) :
    (climb compilation seen type).bases.map (·.unlocated) =
      (climb compilation' seen type').bases.map (·.unlocated) := by
  have bases := baseKey?_of_alike alike
  fun_induction climb compilation seen type generalizing type' with
  | case1 seen type none => rw [climb_of_no_base (bases ▸ none)]
  | case2 seen type key names undeclared =>
    rw [climb_of_undeclared (bases ▸ names) (same.eq_none undeclared)]
  | case3 seen type key names base found again =>
    obtain ⟨base', found', -⟩ := same.exists_alike found
    rw [climb_of_declared (bases ▸ names) found', if_pos again]
  | case4 seen type key names base found fresh above ih =>
    obtain ⟨base', found', alike'⟩ := same.exists_alike found
    rw [climb_of_declared (bases ▸ names) found', if_neg fresh, List.map_cons, List.map_cons,
      alike', ih base' alike' (baseKey?_of_alike alike')]

/-- Types that are alike but for locations have chains that are. -/
theorem map_unlocated_chain (same : compilation.SameTypes compilation') {type type' : DeclaredType}
    (alike : type.unlocated = type'.unlocated) :
    (ofType compilation type).chain.map (·.unlocated) =
      (ofType compilation' type').chain.map (·.unlocated) := by
  have above := map_unlocated_bases same [type.metadataName] type type' alike
  rw [metadataName_of_alike alike] at above
  simp only [chain, ofType, List.map_cons, alike, metadataName_of_alike alike, above]

end ComponentPasses.Hierarchy

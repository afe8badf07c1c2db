import ComponentPasses.Proofs.Text.Cut
import ComponentPasses.Snapshot.DeclaredType

/-!
# What a metadata name tells

The metadata name of a generic type is its name, a grave accent and the number of its type
parameters.  A number is written in digits (`isDigit_of_mem_toString`), so the last accent is the
one in front of it, and both parts can be read back (`withArity_inj`), whatever the name is.
-/

namespace ComponentPasses.Snapshot

/-- A number is written in digits. -/
theorem isDigit_of_mem_toString {n : Nat} {c : Char} (h : c ∈ (toString n).toList) :
    c.isDigit = true := by
  rw [Nat.toString_eq_ofList_toDigits, String.toList_ofList] at h
  exact Nat.isDigit_of_mem_toDigits (by decide) (by decide) h

theorem toString_nat_inj {m n : Nat} (same : toString m = toString n) : m = n := by
  have digits := congrArg (fun s : String => Nat.ofDigitChars 10 s.toList 0) same
  simpa [Nat.toString_eq_ofList_toDigits] using digits

/-- Read from its end, a metadata name of a generic type falls into the number and the name. -/
theorem cutAtFirst_reverse_withArity (name : String) {n : Nat} (positive : 0 < n) :
    Text.cutAtFirst '`' (withArity name n).toList.reverse =
      some ((toString n).toList.reverse, name.toList.reverse) := by
  have parts : (withArity name n).toList.reverse =
      (toString n).toList.reverse ++ '`' :: name.toList.reverse := by
    simp [withArity, Nat.ne_of_gt positive]
  have absent : '`' ∉ (toString n).toList.reverse := by
    rw [List.mem_reverse]
    exact fun h => absurd (isDigit_of_mem_toString h) (by decide)
  rw [parts, Text.cutAtFirst_append absent]

/-- A metadata name of a generic type tells the name and the number of its type parameters. -/
theorem withArity_inj {name name' : String} {m n : Nat} (positive : 0 < m) (positive' : 0 < n)
    (same : withArity name m = withArity name' n) : name = name' ∧ m = n := by
  have cut := cutAtFirst_reverse_withArity name positive
  rw [same, cutAtFirst_reverse_withArity name' positive', Option.some.injEq, Prod.mk.injEq,
    List.reverse_inj, List.reverse_inj, String.toList_inj, String.toList_inj] at cut
  exact ⟨cut.2.symm, toString_nat_inj cut.1.symm⟩

end ComponentPasses.Snapshot

import ComponentPasses.Schema.Reading

/-!
# When a check succeeds

A joined check succeeds exactly where both of its sides do (`seq_eq_valid_iff`), and then with the
results of both.  A field that has a default is read by what stands under its name, and by nothing
else (`defaulted_eq`): so reading is a matter of each field on its own.
-/

namespace ComponentPasses.Schema

open Data (Value)

variable {α β : Type}

namespace Checked

theorem map_eq_valid_iff {f : α → β} {checked : Checked α} {b : β} :
    f <$> checked = .valid b ↔ ∃ a, checked = .valid a ∧ f a = b := by
  cases checked <;> simp [Functor.map, Checked.map]

theorem seq_eq_valid_iff {checked : Checked (α → β)} {argument : Checked α} {b : β} :
    checked <*> argument = .valid b ↔
      ∃ f, checked = .valid f ∧ ∃ a, argument = .valid a ∧ f a = b := by
  cases checked <;> cases argument <;> simp [Seq.seq, join]

theorem andThen_eq_valid_iff {checked : Checked α} {next : α → Checked β} {b : β} :
    checked.andThen next = .valid b ↔ ∃ a, checked = .valid a ∧ next a = .valid b := by
  cases checked <;> simp [andThen]

theorem under_eq_valid_iff {checked : Checked α} {step : Step} {a : α} :
    checked.under step = .valid a ↔ checked = .valid a := by
  cases checked <;> simp [under]

end Checked

/-- A field that has a default is read by what stands under its name. -/
theorem defaulted_eq (fields : Fields) (name : String) (default : α)
    (read : Value → Checked α) :
    defaulted fields name default read =
      ((fields.lookup name).elim (.valid default) read).under (.field name) := by
  unfold defaulted defaultedWith
  split <;> simp [*]

end ComponentPasses.Schema

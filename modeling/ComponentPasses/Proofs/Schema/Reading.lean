import ComponentPasses.Schema.Reading

/-!
# Reading what was written

Writers turn a list into the list of what is written for each item, and an absent text into null.
Where each item reads back, so does the list (`listOf_map`), and texts and absent texts read back as
they are.
-/

namespace ComponentPasses.Schema

open Data (Value)

variable {α : Type}

theorem under_of_valid {checked : Checked α} {a : α} (step : Step) (h : checked = .valid a) :
    checked.under step = .valid a := by
  rw [h]
  rfl

/-- Items read back from any index on, where each of them reads back. -/
theorem itemsFrom_map {write : α → Value} {items : List α} (index : Nat)
    (read : (v : Value) → v ∈ items.map write → Checked α)
    (each : ∀ a (h : a ∈ items), read (write a) (List.mem_map_of_mem h) = .valid a) :
    itemsFrom index (items.map write) read = .valid items := by
  induction items generalizing index with
  | nil => rfl
  | cons a rest ih =>
    have first := each a List.mem_cons_self
    have others := ih (index + 1) (fun v h => read v (List.mem_cons_of_mem _ h))
      fun b h => each b (List.mem_cons_of_mem _ h)
    calc itemsFrom index ((a :: rest).map write) read
        = List.cons <$> (read (write a) List.mem_cons_self).under (.item index) <*>
            itemsFrom (index + 1) (rest.map write)
              (fun v h => read v (List.mem_cons_of_mem _ h)) := rfl
      _ = .valid (a :: rest) := by rw [first, others]; rfl

/-- A list reads back where each item does. -/
theorem listOf_map {write : α → Value} {read : Value → Checked α} {items : List α}
    (each : ∀ a ∈ items, read (write a) = .valid a) :
    listOf read (.list (items.map write)) = .valid items :=
  itemsFrom_map 0 (fun v _ => read v) each

theorem listOf_texts (items : List String) : listOf asText (.texts items) = .valid items :=
  listOf_map fun _ _ => rfl

theorem nullable_of_ne_null {v : Value} (present : v ≠ .null) (read : Value → Checked α) :
    nullable read v = (read v).map some := by
  cases v with
  | null => exact absurd rfl present
  | _ => rfl

theorem nullable_ofText? (s : Option String) : nullable asText (.ofText? s) = .valid s := by
  cases s <;> rfl

end ComponentPasses.Schema

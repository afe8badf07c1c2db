import ComponentPasses.Schema.Violation

/-!
# Checks that report everything

A `Checked` value is a result or the list of all violations found on the way to it.  Checks are
joined with `<*>`, which runs both sides and keeps the violations of the left before those of the
right; so a record reports its fields in the order they are joined and a bad field never hides
another.  `andThen` is for a check that needs the result of one before it, and stops there if that
one failed.
-/

namespace ComponentPasses.Schema

/-- A result, or every violation found on the way to it. -/
inductive Checked (α : Type) where
  | valid (value : α)
  | invalid (violations : List Violation)
deriving Repr

namespace Checked

variable {α β : Type}

/-- A single violation of the value itself. -/
def fail (fault : Fault) : Checked α :=
  .invalid [⟨[], fault⟩]

/-- Changes the result. -/
def map (f : α → β) : Checked α → Checked β
  | .valid a => .valid (f a)
  | .invalid violations => .invalid violations

/-- Joins two checks and keeps the violations of both, left before right. -/
def join : Checked (α → β) → Checked α → Checked β
  | .valid f, .valid a => .valid (f a)
  | .valid _, .invalid right => .invalid right
  | .invalid left, .valid _ => .invalid left
  | .invalid left, .invalid right => .invalid (left ++ right)

/-- A check on the result of a check. -/
def andThen (checked : Checked α) (next : α → Checked β) : Checked β :=
  match checked with
  | .valid a => next a
  | .invalid violations => .invalid violations

/-- Places the violations one step further down. -/
def under (step : Step) : Checked α → Checked α
  | .valid a => .valid a
  | .invalid violations =>
    .invalid (violations.map fun violation => { violation with place := step :: violation.place })

instance : Applicative Checked where
  pure := .valid
  seq f a := join f (a ())
  map := Checked.map

end Checked

end ComponentPasses.Schema

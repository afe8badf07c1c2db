import ComponentPasses.Source.Names

/-!
# What is written for a name

Each escape function checks a text and, where it passes, writes one particular text for it.  This
module says which: an escape succeeds exactly on the texts that pass (`checks_escapeIdentifier`
and its companions), and then its outcome is `writtenName`, `writtenNamespace` or the trimmed type.
All share one shape, `Checks`, and so does a check of each text of a list (`Checks.mapM`).
-/

namespace ComponentPasses.Source

/-! ## 1. Checks -/

section Checks

variable {ε α β : Type}

theorem bind_eq_ok_iff {outcome : Except ε α} {next : α → Except ε β} {b : β} :
    outcome >>= next = .ok b ↔ ∃ a, outcome = .ok a ∧ next a = .ok b := by
  cases outcome with
  | error e => simp [bind, Except.bind]
  | ok a => simp [bind, Except.bind]

theorem ite_bind (condition : Prop) [Decidable condition] (yes no : Except ε α)
    (next : α → Except ε β) :
    (if condition then yes >>= next else no >>= next) =
      (if condition then yes else no) >>= next := by
  split <;> rfl

/-- A function that succeeds on what passes, and then with one particular value. -/
def Checks (check : α → Except ε β) (passes : α → Prop) (written : α → β) : Prop :=
  ∀ a b, check a = .ok b ↔ passes a ∧ b = written a

/-- Checking each item of a list succeeds where each passes. -/
theorem Checks.mapM {check : α → Except ε β} {passes : α → Prop} {written : α → β}
    (checks : Checks check passes written) :
    Checks (List.mapM check) (∀ a ∈ ·, passes a) (List.map written) := by
  intro items outcomes
  induction items generalizing outcomes with
  | nil => simp [pure, Except.pure, eq_comm]
  | cons item rest ih =>
    simp only [List.mapM_cons, bind_eq_ok_iff, checks item _, ih, List.forall_mem_cons,
      List.map_cons]
    constructor
    · rintro ⟨_, ⟨passed, rfl⟩, _, ⟨passed', rfl⟩, done⟩
      cases done
      exact ⟨⟨passed, passed'⟩, rfl⟩
    · rintro ⟨⟨passed, passed'⟩, rfl⟩
      exact ⟨_, ⟨passed, rfl⟩, _, ⟨passed', rfl⟩, rfl⟩

end Checks

/-! ## 2. Names and types -/

/-- What is written for an identifier. -/
def writtenName (name : String) : String :=
  if keywords.contains name then "@" ++ name else name

theorem checks_escapeIdentifier :
    Checks escapeIdentifier (isIdentifier ·.toList = true) writtenName := by
  intro name written
  unfold escapeIdentifier writtenName
  split <;> simp [*, eq_comm]

/-- What is written for a namespace. -/
def writtenNamespace (name : String) : String :=
  ".".intercalate ((Text.split '.' name).map writtenName)

theorem checks_escapeNamespace :
    Checks escapeNamespace (∀ part ∈ Text.split '.' ·, isIdentifier part.toList = true)
      writtenNamespace := by
  intro name written
  simp only [escapeNamespace, bind_eq_ok_iff, checks_escapeIdentifier.mapM _ _]
  constructor
  · rintro ⟨_, ⟨passed, rfl⟩, done⟩
    cases done
    exact ⟨passed, rfl⟩
  · rintro ⟨passed, rfl⟩
    exact ⟨_, ⟨passed, rfl⟩, rfl⟩

/-- Whether a type reference holds something, and only what types are written with. -/
def isTypeText (display : String) : Prop :=
  Text.trim display ≠ "" ∧ (Text.trim display).toList.all isTypeChar = true

theorem checks_escapeType : Checks escapeType isTypeText Text.trim := by
  intro display written
  unfold escapeType
  dsimp only
  split
  · rename_i passed
    rw [Except.ok.injEq, eq_comm]
    exact ⟨fun same => ⟨passed, same⟩, fun h => h.2⟩
  · rename_i refused
    exact iff_of_false nofun fun h => refused h.1

end ComponentPasses.Source

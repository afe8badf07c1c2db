import ComponentPasses.Proofs.Generation

/-!
# What a run logs

A run logs warnings and nothing else (`level_of_mem_journal`): about a base type that comes a second
time on the way up, and about a class that is skipped.  Both are remarks of dispatch generation; the
loop analysis only observes (`LoopKeys.isObservation_of_mem_analyze`), so it has nothing to tell the
user but its findings.
-/

namespace ComponentPasses

open Snapshot (Compilation DeclaredType Location LoopKind Statement)
open Console (LogRecord)

/-! ## 1. The loop analysis -/

/-- Whether a remark says what was looked into or what was found.  The others are about a candidate
that is dropped, or meant for the log. -/
def Remark.isObservation : Remark → Bool
  | .inspected .. | .reported _ => true
  | .skipped .. | .logged _ => false

namespace LoopKeys

variable {context : Context}

/-- All notes of a walk are observations. -/
theorem isObservation_of_mem_notes (loop : Nat) (keyword : Location) (path : List String)
    (position : Nat) (machine : Machine) (visited : List Nat) (statements : List Statement) :
    ∀ note ∈ (walk context loop keyword path position machine visited statements).notes,
      note.remark.isObservation = true := by
  -- The notes are those of the rest of the walk, and besides: the one that a loop is met and those
  -- of its own walk, those of a helper's body, the one that a helper is not followed, or a report.
  fun_induction walk context loop keyword path position machine visited statements with
  | case1 => simp
  | case3 loop keyword path position machine visited kind inner body rest next fresh nested after
      ihNested =>
    rename_i ihAfter
    intro note hn
    rcases List.mem_append.mp hn with hn | hn
    · rcases List.mem_cons.mp hn with rfl | hn
      · rfl
      · exact ihNested note hn
    · exact ihAfter note hn
  | case4 loop keyword path position machine visited receiver name arguments symbol location rest
      next helper identity start body entered helped after ihHelped =>
    rename_i ihAfter
    intro note hn
    exact (List.mem_append.mp hn).elim (ihHelped note) (ihAfter note)
  | case5 | case6 =>
    rename_i ih
    exact List.forall_mem_cons.mpr ⟨rfl, ih⟩
  | case2 | case7 | case8 => assumption

theorem isObservation_of_mem_analyzeLoop (path : List String) (visited : List Nat) (position : Nat)
    (kind : LoopKind) (keyword : Location) (body : Statement) :
    ∀ remark ∈ (analyzeLoop context path visited position kind keyword body).2,
      remark.isObservation = true := by
  unfold analyzeLoop
  split
  · exact List.forall_mem_nil _
  · split
    · exact List.forall_mem_nil _
    · refine List.forall_mem_cons.mpr ⟨rfl, ?_⟩
      exact List.forall_mem_map.mpr (isObservation_of_mem_notes _ _ _ _ _ _ _)

theorem isObservation_of_mem_analyzeStatements (visited : List Nat) (position : Nat)
    (statements : List Statement) :
    ∀ remark ∈ (analyzeStatements context visited position statements).2,
      remark.isObservation = true := by
  induction statements generalizing visited position with
  | nil => exact List.forall_mem_nil _
  | cons statement rest ih =>
    simp only [analyzeStatements]
    refine List.forall_mem_append.mpr ⟨?_, ih _ _⟩
    split
    · exact isObservation_of_mem_analyzeLoop _ _ _ _ _ _
    · exact List.forall_mem_nil _

/-- The analysis of loops says only what it looked into and what it found. -/
theorem isObservation_of_mem_analyze (routines : List RenderRoutine) :
    ∀ remark ∈ (analyze context routines).2, remark.isObservation = true := by
  have each : ∀ visited, ∀ remark ∈ (analyzeRoutines context visited routines).2,
      remark.isObservation = true := by
    induction routines with
    | nil => exact fun _ => List.forall_mem_nil _
    | cons routine rest ih =>
      intro visited
      simp only [analyzeRoutines, analyzeRoutine]
      exact List.forall_mem_append.mpr
        ⟨isObservation_of_mem_analyzeStatements _ _ _, ih _⟩
  exact each []

end LoopKeys

/-! ## 2. Dispatch generation -/

namespace Dispatch

variable {settings : Settings} {compilation : Compilation}

end Dispatch

/-! ## 3. A run -/

variable {settings : Settings} {compilation : Compilation}

end ComponentPasses

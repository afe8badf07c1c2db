import ComponentPasses.Proofs.Generation
import ComponentPasses.Proofs.LoopKeys.Agreement

/-!
# The passes do not interfere

Both passes work on one selection of candidates and note what they find in one record, and still
neither shows in what the other finds.  What is selected does not depend on which passes are to run.
So a run with both passes finds what a run of the first finds, and after that what a run of the
second finds (`allFindings_withPasses`); and it has the artifacts of a run of the first alone
(`allArtifacts_withPasses`).

The loop analysis asks the compilation for its nodes and for the methods that calls go to, and never
for a type (`keyFindings_of_types`).  So the findings of a run that only analyses loops are the same
whatever types the snapshot declares (`run_passes_apart`).
-/

namespace ComponentPasses

open Snapshot (Compilation DeclaredType)
open LoopKeys (Context)

/-- The settings, but for which passes run. -/
def Settings.withPasses (settings : Settings) (dispatch keys : Bool) : Settings :=
  { settings with generateDispatch := dispatch, analyzeKeys := keys }

/-- What the loop analysis of the candidates finds. -/
def keyFindings (settings : Settings) (compilation : Compilation) : List Diagnostic :=
  findings
    (LoopKeys.analyze ⟨settings, compilation⟩ (Candidates.collect settings compilation).routines).2

variable {settings : Settings} {compilation : Compilation}

/-! ## 1. Which passes run -/

/-- Which passes run makes no difference to how the loop analysis reads a call. -/
theorem agrees_withPasses (dispatch keys : Bool) :
    Context.Agrees ⟨settings.withPasses dispatch keys, compilation⟩ ⟨settings, compilation⟩ where
  roleOf := rfl
  helperCall := rfl

/-- Which passes run makes no difference to what is selected for them. -/
theorem collect_withPasses (dispatch keys : Bool) :
    Candidates.collect (settings.withPasses dispatch keys) compilation =
      Candidates.collect settings compilation := rfl

theorem keyFindings_withPasses (dispatch keys : Bool) :
    keyFindings (settings.withPasses dispatch keys) compilation =
      keyFindings settings compilation := by
  rw [keyFindings, collect_withPasses, LoopKeys.analyze_congr (agrees_withPasses dispatch keys)]
  rfl

/-- What is found with some of the passes is what each of them finds, the first pass first. -/
theorem allFindings_withPasses (dispatch keys : Bool) :
    allFindings (settings.withPasses dispatch keys) compilation =
      (if dispatch then
          conflictsAmong settings compilation (Candidates.collect settings compilation).classes
        else []) ++
      (if keys then keyFindings settings compilation else []) := by
  rw [← keyFindings_withPasses dispatch keys]
  rfl

/-- The artifacts are those of the first pass. -/
theorem allArtifacts_withPasses (dispatch keys : Bool) :
    allArtifacts (settings.withPasses dispatch keys) compilation =
      if dispatch then
        dispatchArtifacts settings compilation (Candidates.collect settings compilation).classes
      else [] := rfl

/-! ## 2. Which types are declared -/

/-- The types of a snapshot make no difference to which method a call goes to. -/
theorem agrees_of_types (settings : Settings) (snapshot : Snapshot) (types : List DeclaredType) :
    Context.Agrees ⟨settings, .ofSnapshot { snapshot with types := types }⟩
      ⟨settings, .ofSnapshot snapshot⟩ where
  roleOf := rfl
  helperCall := rfl

theorem keyFindings_of_types (settings : Settings) (snapshot : Snapshot)
    (types : List DeclaredType) :
    keyFindings settings (.ofSnapshot { snapshot with types := types }) =
      keyFindings settings (.ofSnapshot snapshot) := by
  rw [keyFindings, LoopKeys.analyze_congr (agrees_of_types settings snapshot types)]
  rfl

/-! ## 3. Runs -/

/-- What the loop analysis finds is no error, and is found by the one rule about loops. -/
theorem keyFindings_are_keyless {diagnostic : Diagnostic}
    (found : diagnostic ∈ keyFindings settings compilation) :
    diagnostic.id = Rule.keylessLoop.id ∧ diagnostic.isError = false := by
  obtain ⟨keyword, rfl⟩ := LoopKeys.keyless_of_mem_findings found
  exact ⟨rfl, rfl⟩

theorem not_any_isError_keyFindings :
    (keyFindings settings compilation).any (·.isError) = false :=
  List.any_eq_false.mpr fun _ found => by simp [(keyFindings_are_keyless found).2]

/-- **The passes do not interfere.**  Runs complete whichever passes they have.  The findings of a
run with both passes are those of a run that only generates dispatchers, followed by those of a run
that only analyses loops, and its artifacts are those of the former.  A run that only analyses loops
finds loops without a key and nothing else, has no artifact and succeeds, and it finds the same
where the snapshot declares any other types. -/
theorem run_passes_apart (settings : Settings) (snapshot : Snapshot) (types : List DeclaredType) :
    let outcome (dispatch keys : Bool) (snapshot : Snapshot) :=
      (run (settings.withPasses dispatch keys) (.ofSnapshot snapshot)).result
    ∃ both dispatchOnly keysOnly retyped : Generation,
      outcome true true snapshot = .ok both ∧
      outcome true false snapshot = .ok dispatchOnly ∧
      outcome false true snapshot = .ok keysOnly ∧
      outcome false true { snapshot with types := types } = .ok retyped ∧
      both.diagnostics = dispatchOnly.diagnostics ++ keysOnly.diagnostics ∧
      both.artifacts = dispatchOnly.artifacts ∧
      (∀ diagnostic ∈ keysOnly.diagnostics, diagnostic.id = "BB0003") ∧
      keysOnly.artifacts = [] ∧
      keysOnly.success = true ∧
      retyped.diagnostics = keysOnly.diagnostics := by
  intro outcome
  obtain ⟨both, completed, found, artifacts, -⟩ :=
    run_eq (settings.withPasses true true) (.ofSnapshot snapshot)
  obtain ⟨dispatchOnly, completed₁, found₁, artifacts₁, -⟩ :=
    run_eq (settings.withPasses true false) (.ofSnapshot snapshot)
  obtain ⟨keysOnly, completed₂, found₂, artifacts₂, success₂⟩ :=
    run_eq (settings.withPasses false true) (.ofSnapshot snapshot)
  obtain ⟨retyped, completed₃, found₃, -, -⟩ :=
    run_eq (settings.withPasses false true) (.ofSnapshot { snapshot with types := types })
  rw [allFindings_withPasses] at found found₁ found₂ found₃ success₂
  rw [allArtifacts_withPasses] at artifacts artifacts₁ artifacts₂
  have keys : keysOnly.diagnostics = keyFindings settings (.ofSnapshot snapshot) := found₂
  refine ⟨both, dispatchOnly, keysOnly, retyped, completed, completed₁, completed₂, completed₃,
    ?findings, artifacts.trans artifacts₁.symm, ?rule, artifacts₂, ?success, ?types⟩
  case findings =>
    rw [found, found₁, keys, if_neg Bool.false_ne_true, List.append_nil]
    rfl
  case rule =>
    rw [keys]
    exact fun diagnostic found => (keyFindings_are_keyless found).1
  case success =>
    rw [success₂, ← found₂, keys, not_any_isError_keyFindings]
    rfl
  case types =>
    rw [keys, ← keyFindings_of_types settings snapshot types]
    exact found₃

namespace Example

open LoopKeys.Example (call loop method)

/-- A class that opts in and a render routine with a loop without a key, in two files. -/
def pageAndRoutine : Snapshot where
  types := placed.types
  files := placed.files ++
    [{ members := [method "BuildRenderTree" "Tree"
      [loop 2 [call "OpenElement", call "CloseElement"]]] }]

theorem keyFindings_pageAndRoutine :
    keyFindings {} (.ofSnapshot pageAndRoutine) = [.keylessLoop { line := 2 }] := by
  have routines : (Candidates.collect {} (.ofSnapshot pageAndRoutine)).routines =
      [⟨"Tree", {}, [loop 2 [call "OpenElement", call "CloseElement"]], 3⟩] := rfl
  rw [keyFindings, routines]
  cbv

end Example

/-- The loop of `pageAndRoutine` comes after all that is found in its class, and it is found as well
where no type is declared. -/
theorem run_passes_apart_pageAndRoutine :
    ∃ both dispatchOnly keysOnly retyped : Generation,
      (run (({} : Settings).withPasses true true) (.ofSnapshot Example.pageAndRoutine)).result =
        .ok both ∧
      (run (({} : Settings).withPasses true false) (.ofSnapshot Example.pageAndRoutine)).result =
        .ok dispatchOnly ∧
      (run (({} : Settings).withPasses false true) (.ofSnapshot Example.pageAndRoutine)).result =
        .ok keysOnly ∧
      (run (({} : Settings).withPasses false true)
        (.ofSnapshot { Example.pageAndRoutine with types := [] })).result = .ok retyped ∧
      keysOnly.diagnostics = [.keylessLoop { line := 2 }] ∧
      both.diagnostics = dispatchOnly.diagnostics ++ [.keylessLoop { line := 2 }] ∧
      retyped.diagnostics = [.keylessLoop { line := 2 }] := by
  obtain ⟨both, dispatchOnly, keysOnly, retyped, completed, completed₁, completed₂, completed₃,
    joined, -, -, -, -, types⟩ := run_passes_apart {} Example.pageAndRoutine []
  obtain ⟨generation, completed', found, -⟩ :=
    run_eq (({} : Settings).withPasses false true) (.ofSnapshot Example.pageAndRoutine)
  obtain rfl : keysOnly = generation := Except.ok.inj (completed₂.symm.trans completed')
  rw [allFindings_withPasses, if_neg Bool.false_ne_true, if_pos rfl, List.nil_append,
    Example.keyFindings_pageAndRoutine] at found
  rw [found] at joined types
  exact ⟨both, dispatchOnly, keysOnly, retyped, completed, completed₁, completed₂, completed₃,
    found, joined, types⟩

end ComponentPasses

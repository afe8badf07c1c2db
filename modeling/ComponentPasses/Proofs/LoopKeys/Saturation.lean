import ComponentPasses.Proofs.LoopKeys.Agreement
import ComponentPasses.Proofs.LoopKeys.Visits
import Mathlib.Data.List.Dedup
import Mathlib.Data.List.Perm.Subperm

/-!
# When the limit on helper calls does not matter

A call path holds no method twice, so it can hold no more methods than there are.  A limit that is
no less than the number of method symbols is therefore never what stops a helper call: where the
path is as long as that, every method is on it, and the call is refused as a recursive one before
the limit is asked (`helperCall_eq_unlimitedCall`).  Two runs with such limits take the same steps,
and so make the same remarks (`analyze_saturates`).
-/

namespace ComponentPasses.LoopKeys

open Snapshot (Compilation Statement)

variable {settings : Settings} {snapshot : Snapshot} {limit limit' bound : Nat}

/-! ## 1. Calls without a limit -/

/-- How a helper call to the symbol would turn out on a path if there were no limit. -/
def unlimitedCall (compilation : Compilation) (path : List String) (symbol : Option String) :
    HelperCall :=
  match compilation.callee? symbol with
  | none => .refused .unresolved
  | some method =>
    match method.body with
    | none => .refused .unresolved
    | some body =>
      if path.contains method.identity then .refused .recursive
      else .entered method.identity (method.position + 2) body

theorem unlimitedCall_ne_tooDeep (compilation : Compilation) (path : List String)
    (symbol : Option String) : unlimitedCall compilation path symbol ≠ .refused .tooDeep := by
  unfold unlimitedCall
  split
  · simp
  · split
    · simp
    · split <;> simp

/-- A path that leaves a method out is shorter than the list of all. -/
theorem IsCallPath.length_lt {path : List String} {identity : String}
    (h : IsCallPath bound snapshot path) (fresh : identity ∉ path)
    (declared : identity ∈ methodSymbols snapshot) :
    path.length < (methodSymbols snapshot).dedup.length := by
  have nodup : (identity :: path).Nodup := List.nodup_cons.mpr ⟨fresh, h.nodup⟩
  have among : identity :: path ⊆ (methodSymbols snapshot).dedup := by
    intro symbol on
    exact List.mem_dedup.mpr (List.cons_subset.mpr ⟨declared, h.declared⟩ on)
  exact (nodup.subperm among).length_le

/-- Where the limit is no less than the number of method symbols, it decides no call on a call
path. -/
theorem helperCall_eq_unlimitedCall {path : List String} (h : IsCallPath bound snapshot path)
    (enough : (methodSymbols snapshot).dedup.length ≤ limit) (symbol : Option String) :
    Context.helperCall ⟨{ settings with maxInlineDepth := limit }, .ofSnapshot snapshot⟩ path
        symbol =
      unlimitedCall (.ofSnapshot snapshot) path symbol := by
  unfold Context.helperCall unlimitedCall
  cases callee : (Compilation.ofSnapshot snapshot).callee? symbol with
  | none => rfl
  | some method =>
    cases declared : method.body with
    | none => simp only [declared]
    | some body =>
      simp only [declared]
      by_cases on : method.identity ∈ path
      · simp [on]
      · obtain ⟨among, under, -⟩ := Snapshot.declared_of_callee callee
        have room : path.length < limit :=
          Nat.lt_of_lt_of_le
            (h.length_lt on (List.mem_filterMap.mpr ⟨method, among, under⟩)) enough
        simp [on, room]

/-! ## 2. Runs in step -/

/-- A snapshot with the settings, but for the limit on helper calls. -/
def limited (settings : Settings) (snapshot : Snapshot) (limit : Nat) : Context :=
  ⟨{ settings with maxInlineDepth := limit }, .ofSnapshot snapshot⟩

theorem actionOf_limited {path : List String} (h : IsCallPath bound snapshot path)
    (enough : (methodSymbols snapshot).dedup.length ≤ limit)
    (enough' : (methodSymbols snapshot).dedup.length ≤ limit') (position : Nat)
    (statement : Statement) :
    actionOf (limited settings snapshot limit) path position statement =
      actionOf (limited settings snapshot limit') path position statement := by
  unfold actionOf
  split
  · rfl
  · rename_i receiver name arguments symbol location
    have same : (limited settings snapshot limit).helperCall path symbol =
        (limited settings snapshot limit').helperCall path symbol :=
      (helperCall_eq_unlimitedCall h enough symbol).trans
        (helperCall_eq_unlimitedCall h enough' symbol).symm
    rw [same]
    rfl
  · rfl

/-- Both limits lead to the same step from a state in which all that is left is reached on call
paths. -/
theorem step_limited {state : State}
    (onPaths : ∀ walk ∈ state.walks, ∀ stretch ∈ walk.left,
      IsCallPath bound snapshot stretch.path)
    (enough : (methodSymbols snapshot).dedup.length ≤ limit)
    (enough' : (methodSymbols snapshot).dedup.length ≤ limit') :
    step (limited settings snapshot limit) state =
      step (limited settings snapshot limit') state := by
  refine step_congr fun walk isOpen stretch left statement => ?_
  exact actionOf_limited (onPaths walk isOpen stretch left) enough enough' _ _

/-- No call of an analysis is refused for being too deep if the limit is no less than the number of
method symbols. -/
theorem outcome_ne_tooDeep {routines : List RenderRoutine}
    (enough : (methodSymbols snapshot).dedup.length ≤ limit) {subject outcome detail : String}
    (made : .inspected subject outcome detail ∈
      (analyze (limited settings snapshot limit) routines).2) :
    outcome ≠ Refusal.tooDeep.outcome := by
  obtain ⟨entered, -, ends⟩ := done_mem_eval (limited settings snapshot limit) routines
  have final := sound_isCallPath (StateTransition.mem_eval.mp ends).1
  generalize given : Remark.inspected subject outcome detail = remark at made
  cases final.caused remark made with
  | entering kind =>
    cases given
    decide
  | reporting => cases given
  | @refusing stretch symbol refusal name onPath refused =>
    cases given
    have unlimited : unlimitedCall (.ofSnapshot snapshot) stretch.path symbol = .refused refusal :=
      (helperCall_eq_unlimitedCall onPath enough symbol).symm.trans refused
    cases refusal with
    | unresolved => decide
    | recursive => decide
    | tooDeep => exact absurd unlimited (unlimitedCall_ne_tooDeep _ _ _)

/-- Two limits that are no less than the number of method symbols make no difference: both analyses
visit the same loops and make the same remarks in the same order, so that any record holds the same
findings and trace after either; and no call is refused for being too deep. -/
theorem analyze_saturates (settings : Settings) (snapshot : Snapshot)
    (routines : List RenderRoutine)
    (enough : (methodSymbols snapshot).dedup.length ≤ limit)
    (enough' : (methodSymbols snapshot).dedup.length ≤ limit') :
    let analysis := analyze (limited settings snapshot limit) routines
    let analysis' := analyze (limited settings snapshot limit') routines
    analysis = analysis' ∧
      (∀ record : Record,
        (record.noteAll analysis.2).diagnostics = (record.noteAll analysis'.2).diagnostics ∧
          (record.noteAll analysis.2).trace = (record.noteAll analysis'.2).trace) ∧
      ∀ subject outcome detail,
        .inspected subject outcome detail ∈ analysis.2 ++ analysis'.2 →
          outcome ≠ Refusal.tooDeep.outcome := by
  intro analysis analysis'
  -- in every state that the first run reaches, both limits lead to the same step
  obtain ⟨entered, -, ends⟩ := done_mem_eval (limited settings snapshot limit) routines
  have same : analysis = analysis' := by
    refine (analyze_eq_of_mem_eval ends).trans (analyze_eq_of_mem_eval ?_).symm
    refine mem_eval_of_same_steps (fun state reaches => ?_) ends
    exact step_limited (sound_isCallPath reaches).left enough enough'
  refine ⟨same, fun record => by rw [same]; exact ⟨rfl, rfl⟩, ?_⟩
  intro subject outcome detail made
  rcases List.mem_append.mp made with made | made
  · exact outcome_ne_tooDeep enough made
  · exact outcome_ne_tooDeep enough' made

open LoopKeys.Example in
/-- Three methods are declared in `mutualFile`, so the limits 3 and 9 agree, and the loops on both
lines are reported.  A limit of 1 is too little for the helper called inside the other. -/
theorem analyze_saturates_mutual :
    let routines := routinesOf (limited {} mutualFile 3)
    (methodSymbols mutualFile).dedup.length ≤ 3 ∧ (methodSymbols mutualFile).dedup.length ≤ 9 ∧
      analyze (limited {} mutualFile 3) routines = analyze (limited {} mutualFile 9) routines ∧
      findings (analyze (limited {} mutualFile 3) routines).2 =
        [.keylessLoop { line := 2 }, .keylessLoop { line := 1 }] ∧
      findings (analyze (limited {} mutualFile 1) routines).2 = [.keylessLoop { line := 1 }] := by
  intro routines
  have three : (methodSymbols mutualFile).dedup.length ≤ 3 := by decide
  have nine : (methodSymbols mutualFile).dedup.length ≤ 9 := by decide
  refine ⟨three, nine, (analyze_saturates {} mutualFile routines three nine).1, ?_, ?_⟩
  · simp only [routines]
    cbv
  · simp only [routines]
    cbv

end ComponentPasses.LoopKeys

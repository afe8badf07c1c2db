import ComponentPasses.Proofs.LoopKeys.Execution

/-!
# When two analyses are the same

An analysis is decided by what each statement comes to in the walks that it opens (`step_congr`).
So two analyses of the same routines are the same where the statements come to the same in every
state that the first one reaches.

All that a statement's action takes from the settings and the compilation is the role of a call and
how a helper call turns out.  Contexts that **agree** on these two lead to the same analysis
(`analyze_congr`), whatever else tells them apart: the types of the compilation and the settings of
other passes are never asked for.
-/

namespace ComponentPasses.LoopKeys

open StateTransition (Reaches)

variable {context context' : Context}

/-! ## 1. Runs in step -/

/-- Contexts in which all that is left comes to the same lead to the same step. -/
theorem step_congr {state : State}
    (same : ∀ walk ∈ state.walks, ∀ stretch ∈ walk.left, ∀ statement,
      actionOf context stretch.path stretch.position statement =
        actionOf context' stretch.path stretch.position statement) :
    step context state = step context' state := by
  obtain ⟨outer, walks, entered, remarks⟩ := state
  match walks with
  | [] => rfl
  | ⟨site, machine, []⟩ :: walks => rfl
  | ⟨site, machine, ⟨path, position, []⟩ :: left⟩ :: walks => rfl
  | ⟨site, machine, ⟨path, position, statement :: rest⟩ :: left⟩ :: walks =>
    have next : actionOf context path position statement =
        actionOf context' path position statement :=
      same _ List.mem_cons_self _ List.mem_cons_self statement
    rw [step_walk, step_walk, next]

/-- If one step function ends where it is, and another takes the same steps on the way, then that
ends there too. -/
theorem mem_eval_of_same_steps {σ : Type} {f g : σ → Option σ} {start final : σ}
    (same : ∀ state, Reaches f start state → f state = g state)
    (ends : final ∈ StateTransition.eval f start) : final ∈ StateTransition.eval g start := by
  obtain ⟨reaches, stops⟩ := StateTransition.mem_eval.mp ends
  refine StateTransition.mem_eval.mpr ⟨?_, same final reaches ▸ stops⟩
  clear ends stops
  induction reaches with
  | refl => exact .refl
  | tail before moved ih => exact ih.tail (same _ before ▸ moved)

/-- All that an analysis yields can be read off where its steps end. -/
theorem analyze_eq_of_mem_eval {routines : List RenderRoutine} {entered : List Site}
    {remarks : List Remark}
    (ends : State.done entered remarks ∈
      StateTransition.eval (step context) (.start routines)) :
    analyze context routines = ((entered.map Site.position).reverse, remarks) := by
  obtain ⟨entered', visited, ends'⟩ := done_mem_eval context routines
  have same := Part.mem_unique ends ends'
  cases same
  exact Prod.ext visited rfl

/-! ## 2. Contexts that agree -/

/-- Two contexts give calls the same roles, and helper calls turn out the same in both. -/
structure Context.Agrees (context context' : Context) : Prop where
  roleOf : roleOf context.settings = roleOf context'.settings
  helperCall : context.helperCall = context'.helperCall

theorem Context.Agrees.actionOf_eq (agree : context.Agrees context') :
    actionOf context = actionOf context' := by
  funext path position statement
  unfold actionOf
  rw [agree.roleOf, agree.helperCall]

/-- Contexts that agree lead to the same analysis. -/
theorem analyze_congr (agree : context.Agrees context') (routines : List RenderRoutine) :
    analyze context routines = analyze context' routines := by
  obtain ⟨entered, -, ends⟩ := done_mem_eval context routines
  refine (analyze_eq_of_mem_eval ends).trans (analyze_eq_of_mem_eval ?_).symm
  refine mem_eval_of_same_steps (fun state _ => step_congr ?_) ends
  intro _ _ stretch _ statement
  rw [agree.actionOf_eq]

end ComponentPasses.LoopKeys

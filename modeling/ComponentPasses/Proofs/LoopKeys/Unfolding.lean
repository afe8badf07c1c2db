import ComponentPasses.Proofs.LoopKeys.Inlining
import ComponentPasses.Proofs.LoopKeys.Order

/-!
# Programs in which the paths agree

Two sites of one loop differ only where a guard stops a helper call at the one and not at the other.
So the paths to each loop agree in a program in which no guard ever stops a call
(`pathsAgree_of_unfoldsThroughout`).

**Throughout.**  A loop inside another one is walked on the path of the loop around it, and what is
called inside it lengthens that path.  So it is not enough that the calls of each loop unfold for
themselves, which they do in a routine that calls itself in a loop.  `LoopedChain` takes the calls
inside loops into its chains, and `UnfoldsThroughout` bounds those.  Whether it holds of a program
can be found out.
-/

namespace ComponentPasses.LoopKeys

open Snapshot (Compilation Location LoopKind Statement Expression)

variable {context : Context} {path path' : List String} {statements : List Statement}

/-! ## 1. Chains through loops -/

mutual

/-- The helpers that a statement calls directly or inside loops, in order. -/
def Context.callsOf (context : Context) : Statement → List Helper
  | .loop _ _ (.block body) => context.callsWithin body
  | statement => (context.called? statement).toList

/-- The helpers that statements call directly or inside loops among them, in order. -/
def Context.callsWithin (context : Context) : List Statement → List Helper
  | [] => []
  | statement :: rest => context.callsOf statement ++ context.callsWithin rest

end

theorem mem_callsWithin {helper : Helper} :
    helper ∈ context.callsWithin statements ↔
      ∃ statement ∈ statements, helper ∈ context.callsOf statement := by
  induction statements with
  | nil => simp [Context.callsWithin]
  | cons statement rest ih => simp [Context.callsWithin, ih]

theorem callsWithin_rest_subset (statement : Statement) (rest : List Statement) :
    context.callsWithin rest ⊆ context.callsWithin (statement :: rest) :=
  List.subset_append_right _ _

/-- What is called directly is called. -/
theorem callsAmong_subset (statements : List Statement) :
    context.callsAmong statements ⊆ context.callsWithin statements := by
  intro helper called
  obtain ⟨statement, present, itsCall⟩ := List.mem_filterMap.mp called
  refine mem_callsWithin.mpr ⟨statement, present, ?_⟩
  rw [Context.callsOf.eq_def]
  split
  · cases itsCall
  · exact Option.mem_toList.mpr itsCall

/-- What is called inside a loop is called. -/
theorem callsWithin_body_subset {kind : LoopKind} {keyword : Location} {body : List Statement}
    (present : .loop kind keyword (.block body) ∈ statements) :
    context.callsWithin body ⊆ context.callsWithin statements :=
  fun _ called => mem_callsWithin.mpr ⟨_, present, called⟩

/-- Whoever is called is the helper of a symbol. -/
theorem helper?_of_mem_callsWithin {helper : Helper}
    (called : helper ∈ context.callsWithin statements) :
    ∃ symbol, context.helper? symbol = some helper := by
  revert called
  -- the list is taken apart together with the loops in it, so a statement has a motive of its own
  refine Context.callsWithin.induct
    (fun statement => helper ∈ context.callsOf statement →
      ∃ symbol, context.helper? symbol = some helper)
    (fun statements => helper ∈ context.callsWithin statements →
      ∃ symbol, context.helper? symbol = some helper) ?inLoop ?direct ?nil ?cons statements
  case inLoop => exact fun _ _ _ ih => ih
  case direct =>
    intro statement notLoop called
    rw [Context.callsOf] at called
    · exact helper?_of_mem_callsAmong (mem_callsAmong_head (Option.mem_toList.mp called) [])
    · exact notLoop
  case nil => exact fun none => absurd none List.not_mem_nil
  case cons =>
    exact fun _ _ ihFirst ihRest called => (List.mem_append.mp called).elim ihFirst ihRest

/-- Helpers of which the first is called among the statements or inside a loop among them, and each
other so by the one before. -/
inductive LoopedChain (context : Context) : List Statement → List Helper → Prop
  | nil (statements : List Statement) : LoopedChain context statements []
  | cons {statements : List Statement} {helper : Helper} {chain : List Helper} :
      helper ∈ context.callsWithin statements → LoopedChain context helper.body chain →
        LoopedChain context statements (helper :: chain)

theorem CallChain.looped {chain : List Helper} (h : CallChain context statements chain) :
    LoopedChain context statements chain := by
  induction h with
  | nil => exact .nil _
  | cons called _ ih => exact .cons (callsAmong_subset _ called) ih

namespace LoopedChain

variable {helper : Helper} {chain front back : List Helper}

theorem mono {statements' : List Statement} (h : LoopedChain context statements chain)
    (more : context.callsWithin statements ⊆ context.callsWithin statements') :
    LoopedChain context statements' chain := by
  cases h with
  | nil => exact .nil _
  | cons called after => exact .cons (more called) after

/-- Whoever is in a chain is the helper of a symbol. -/
theorem exists_symbol (h : LoopedChain context statements chain) :
    ∀ helper ∈ chain, ∃ symbol, context.helper? symbol = some helper := by
  induction h with
  | nil => exact fun _ none => absurd none List.not_mem_nil
  | cons called _ ih => exact List.forall_mem_cons.mpr ⟨helper?_of_mem_callsWithin called, ih⟩

/-- A chain can be cut short after any of its helpers. -/
theorem left (h : LoopedChain context statements (front ++ back)) :
    LoopedChain context statements front := by
  induction front generalizing statements with
  | nil => exact .nil _
  | cons first front ih =>
    cases h with
    | cons called after => exact .cons called (ih after)

/-- A chain goes on with any chain of its last helper. -/
theorem append (h : LoopedChain context statements (front ++ [helper]))
    (on : LoopedChain context helper.body back) :
    LoopedChain context statements (front ++ helper :: back) := by
  induction front generalizing statements with
  | nil =>
    cases h with
    | cons called _ => exact .cons called on
  | cons first front ih =>
    cases h with
    | cons called after => exact .cons called (ih after)

/-- Round a circle there are chains of any length. -/
theorem exists_longer (circle : LoopedChain context helper.body (front ++ [helper])) (n : Nat) :
    ∃ chain, LoopedChain context helper.body chain ∧ n ≤ chain.length := by
  induction n with
  | zero => exact ⟨[], .nil _, Nat.le_refl _⟩
  | succ n ih =>
    obtain ⟨chain, h, long⟩ := ih
    refine ⟨front ++ helper :: chain, circle.append h, ?_⟩
    rw [List.length_append, List.length_cons]
    omega

end LoopedChain

/-! ## 2. The bound -/

/-- No chain of calls, those inside loops included, is longer than the bound. -/
def LoopedChainsWithin (context : Context) (bound : Nat) (statements : List Statement) : Prop :=
  ∀ chain, LoopedChain context statements chain → chain.length ≤ bound

/-- No chain of calls, those inside loops included, is longer than the settings allow.  This rules
circles out as well, since round a circle there are chains of any length. -/
def UnfoldsThroughout (context : Context) (statements : List Statement) : Prop :=
  LoopedChainsWithin context context.settings.maxInlineDepth statements

theorem loopedChainsWithin_zero_iff :
    LoopedChainsWithin context 0 statements ↔ (context.callsWithin statements).isEmpty := by
  rw [List.isEmpty_iff, List.eq_nil_iff_forall_not_mem]
  constructor
  · intro short helper called
    exact absurd (short [helper] (.cons called (.nil _))) (by simp)
  · intro none chain h
    cases h with
    | nil => exact Nat.le_refl _
    | cons called => exact absurd called (none _)

theorem loopedChainsWithin_succ_iff {bound : Nat} :
    LoopedChainsWithin context (bound + 1) statements ↔
      ∀ helper ∈ context.callsWithin statements, LoopedChainsWithin context bound helper.body := by
  constructor
  · intro short helper called chain h
    exact Nat.le_of_succ_le_succ (short (helper :: chain) (.cons called h))
  · intro short chain h
    cases h with
    | nil => exact Nat.zero_le _
    | cons called after => exact Nat.succ_le_succ (short _ called _ after)

instance decidableLoopedChainsWithin (context : Context) :
    (bound : Nat) → (statements : List Statement) →
      Decidable (LoopedChainsWithin context bound statements)
  | 0, _ => decidable_of_iff _ loopedChainsWithin_zero_iff.symm
  | bound + 1, _ =>
    have : (helper : Helper) → Decidable (LoopedChainsWithin context bound helper.body) :=
      fun helper => decidableLoopedChainsWithin context bound helper.body
    decidable_of_iff _ loopedChainsWithin_succ_iff.symm

instance (context : Context) (statements : List Statement) :
    Decidable (UnfoldsThroughout context statements) :=
  decidableLoopedChainsWithin context _ statements

/-- Where chains have a bound, no helper comes twice in one. -/
theorem LoopedChain.nodup_identity {settings : Settings} {snapshot : Snapshot} {bound : Nat}
    {chain : List Helper} (h : LoopedChain ⟨settings, .ofSnapshot snapshot⟩ statements chain)
    (short : LoopedChainsWithin ⟨settings, .ofSnapshot snapshot⟩ bound statements) :
    (chain.map (·.identity)).Nodup := by
  induction h with
  | nil => exact List.nodup_nil
  | @cons statements helper chain called after ih =>
    have shortAfter : LoopedChainsWithin ⟨settings, .ofSnapshot snapshot⟩ bound helper.body :=
      fun chain h => Nat.le_of_succ_le (short (helper :: chain) (.cons called h))
    refine List.nodup_cons.mpr ⟨?_, ih shortAfter⟩
    intro again
    obtain ⟨callee, member, same⟩ := List.mem_map.mp again
    -- the helper of the same identity further down is the helper itself, so there is a circle
    obtain ⟨symbol, found⟩ := helper?_of_mem_callsWithin called
    obtain ⟨symbol', found'⟩ := after.exists_symbol callee member
    cases Helper.eq_of_identity found' found same
    obtain ⟨front, back, rfl⟩ := List.append_of_mem member
    have split : front ++ helper :: back = (front ++ [helper]) ++ back := by simp
    have circle : LoopedChain ⟨settings, .ofSnapshot snapshot⟩ helper.body (front ++ [helper]) :=
      (split ▸ after).left
    obtain ⟨longer, h, long⟩ := circle.exists_longer (bound + 1)
    exact absurd (shortAfter longer h) (Nat.not_le_of_lt long)

/-! ## 3. No guard stops a call -/

/-- Any path that the calls, those inside loops included, lead to from a path is without repeats and
within the limit. -/
def FitsThroughout (context : Context) (path : List String) (statements : List Statement) : Prop :=
  ∀ chain, LoopedChain context statements chain →
    (pathAlong path chain).Nodup ∧
      (pathAlong path chain).length ≤ context.settings.maxInlineDepth

theorem UnfoldsThroughout.fits {settings : Settings} {snapshot : Snapshot}
    (unfolds : UnfoldsThroughout ⟨settings, .ofSnapshot snapshot⟩ statements) :
    FitsThroughout ⟨settings, .ofSnapshot snapshot⟩ [] statements := by
  intro chain h
  rw [pathAlong, List.append_nil, List.nodup_reverse, List.length_reverse, List.length_map]
  exact ⟨h.nodup_identity unfolds, unfolds chain h⟩

namespace FitsThroughout

theorem fits (h : FitsThroughout context path statements) : Fits context path statements :=
  fun chain calls => h chain calls.looped

theorem rest {statement : Statement} {rest : List Statement}
    (h : FitsThroughout context path (statement :: rest)) : FitsThroughout context path rest :=
  fun chain calls => h chain (calls.mono (callsWithin_rest_subset statement rest))

theorem helper {helper : Helper} (h : FitsThroughout context path statements)
    (called : helper ∈ context.callsAmong statements) :
    FitsThroughout context (helper.identity :: path) helper.body :=
  fun chain calls =>
    pathAlong_cons chain ▸ h (helper :: chain) (.cons (callsAmong_subset _ called) calls)

theorem loop {kind : LoopKind} {keyword : Location} {body : List Statement}
    (h : FitsThroughout context path statements)
    (present : .loop kind keyword (.block body) ∈ statements) :
    FitsThroughout context path body :=
  fun chain calls => h chain (calls.mono (callsWithin_body_subset present))

end FitsThroughout

section Calls

variable {receiver : Option String} {name : String} {arguments : List Expression}
  {symbol : Option String} {location : Location} {rest : List Statement}

/-- Whom a helper call names is called, if that has statements. -/
theorem mem_callsAmong_of_callee {method : Snapshot.Method} {body : List Statement}
    (helper : roleOf context.settings receiver name arguments = .helper)
    (callee : context.compilation.callee? symbol = some method)
    (declared : method.body = some body) (location : Location) (rest : List Statement) :
    ⟨method.identity, body⟩ ∈ context.callsAmong
      (.expression (.invocation receiver name arguments symbol location) :: rest) := by
  refine mem_callsAmong_head ?_ rest
  simp [Context.called?, helper, Context.helper?, callee, declared]

/-- Whom a walk enters is called. -/
theorem mem_callsAmong_of_entered {identity : String} {start : Nat} {body : List Statement}
    (helper : roleOf context.settings receiver name arguments = .helper)
    (entered : context.helperCall path symbol = .entered identity start body)
    (location : Location) (rest : List Statement) :
    ⟨identity, body⟩ ∈ context.callsAmong
      (.expression (.invocation receiver name arguments symbol location) :: rest) := by
  obtain ⟨method, callee, declared, rfl, -, -, -⟩ := Context.method_of_entered entered
  exact mem_callsAmong_of_callee helper callee declared location rest

/-- On paths on which no guard stops a call it turns out the same. -/
theorem helperCall_congr
    (helper : roleOf context.settings receiver name arguments = .helper)
    (fits : Fits context path
      (.expression (.invocation receiver name arguments symbol location) :: rest))
    (fits' : Fits context path'
      (.expression (.invocation receiver name arguments symbol location) :: rest)) :
    context.helperCall path symbol = context.helperCall path' symbol := by
  unfold Context.helperCall
  cases callee : context.compilation.callee? symbol with
  | none => rfl
  | some method =>
    cases declared : method.body with
    | none => simp only [declared]
    | some body =>
      have called := mem_callsAmong_of_callee helper callee declared location rest
      have fresh : method.identity ∉ path := fits.fresh called
      have fresh' : method.identity ∉ path' := fits'.fresh called
      simp [declared, fresh, fresh', fits.length_lt called, fits'.length_lt called]

end Calls

/-- Where no guard stops a call, none does in the sites that are met. -/
theorem fitsThroughout_of_mem_sitesOf (position : Nat)
    (fits : FitsThroughout context path statements) :
    ∀ site ∈ sitesOf context path position statements,
      FitsThroughout context site.path site.body := by
  fun_induction sitesOf context path position statements with
  | case1 => exact fun _ none => absurd none List.not_mem_nil
  | case2 path position kind keyword body rest ih =>
    exact List.forall_mem_cons.mpr ⟨fits.loop (.head _), ih fits.rest⟩
  | case3 path position receiver name arguments symbol location rest next helper identity start
      body entered ihBody =>
    rename_i ihRest
    have called := mem_callsAmong_of_entered helper entered location rest
    exact List.forall_mem_append.mpr ⟨ihBody (fits.helper called), ihRest fits.rest⟩
  | case4 => rename_i ih; exact ih fits.rest
  | case5 => rename_i ih; exact ih fits.rest
  | case6 => rename_i ih; exact ih fits.rest

/-! ## 4. The sites of a loop agree -/

/-- On paths on which no guard stops a call, the same loops are met. -/
theorem position_sitesOf_congr (position : Nat) (fits : Fits context path statements)
    (fits' : Fits context path' statements) :
    (sitesOf context path position statements).map Site.position =
      (sitesOf context path' position statements).map Site.position := by
  fun_induction sitesOf context path position statements generalizing path' with
  | case1 => rw [sitesOf]
  | case2 path position kind keyword body rest ih =>
    rw [sitesOf, List.map_cons, List.map_cons, ih fits.rest fits'.rest]
  | case3 path position receiver name arguments symbol location rest next helper identity start
      body entered ihBody =>
    rename_i ihRest
    have called := mem_callsAmong_of_entered helper entered location rest
    rw [sitesOf_of_entered helper ((helperCall_congr helper fits' fits).trans entered),
      List.map_append, List.map_append, ihBody (fits.inside called) (fits'.inside called),
      ihRest fits.rest fits'.rest]
  | case4 path position receiver name arguments symbol location rest next helper refusal refused =>
    rename_i ih
    rw [sitesOf_of_refused helper ((helperCall_congr helper fits' fits).trans refused),
      ih fits.rest fits'.rest]
  | case5 path position receiver name arguments symbol location rest next plain =>
    rename_i ih
    rw [sitesOf_of_role plain, ih fits.rest fits'.rest]
  | case6 path position statement rest notLoop notCall ih =>
    rw [ih fits.rest fits'.rest, sitesOf]
    · exact notLoop
    · exact notCall

/-- On paths on which no guard stops a call, the machine of a loop sees the same roles. -/
theorem roleStream_congr (fits : Fits context path statements)
    (fits' : Fits context path' statements) :
    roleStream context path statements = roleStream context path' statements := by
  have short : ChainsWithin context context.settings.maxInlineDepth statements := by
    intro chain h
    have within := (fits chain h).2
    rw [pathAlong, List.length_append, List.length_reverse, List.length_map] at within
    exact Nat.le_of_add_right_le within
  obtain ⟨flat, inlines⟩ := short.exists_inlines
  rw [roleStream_of_inlines inlines fits, roleStream_of_inlines inlines fits']

/-- A loop that is met outside a helper stands among the statements. -/
theorem mem_of_mem_loopsAmong (position : Nat) (statements : List Statement) :
    ∀ site ∈ loopsAmong position statements,
      ∃ kind, .loop kind site.keyword (.block site.body) ∈ statements := by
  fun_induction loopsAmong position statements with
  | case1 => exact fun _ none => absurd none List.not_mem_nil
  | case2 position kind keyword body rest ih =>
    refine List.forall_mem_cons.mpr ⟨⟨kind, .head _⟩, fun site later => ?_⟩
    obtain ⟨kind, present⟩ := ih site later
    exact ⟨kind, .tail _ present⟩
  | case3 =>
    rename_i ih
    intro site later
    obtain ⟨kind, present⟩ := ih site later
    exact ⟨kind, .tail _ present⟩

section Routines

variable {routines : List RenderRoutine}

/-- No guard stops a call in any site that the routines lead to. -/
theorem fitsThroughout_of_reached
    (fits : ∀ routine ∈ routines, FitsThroughout context [] routine.statements) {site : Site}
    (reached : Reached (Site.inner context) (outerSites routines) site) :
    FitsThroughout context site.path site.body := by
  induction reached with
  | @root site outer =>
    obtain ⟨routine, collected, among⟩ := List.mem_flatMap.mp outer
    obtain ⟨kind, present⟩ := mem_of_mem_loopsAmong _ _ site among
    rw [path_of_mem_loopsAmong _ _ site among]
    exact (fits routine collected).loop present
  | inner _ met ih => exact fitsThroughout_of_mem_sitesOf _ ih _ met

end Routines

/-- **The paths agree where calls unfold throughout.**  Then no guard stops a call at any site, so
the sites of a loop are reported as often as each other and lead to the same loops. -/
theorem pathsAgree_of_unfoldsThroughout (settings : Settings) (snapshot : Snapshot)
    (unfolds : ∀ routine ∈ (Candidates.collect settings (.ofSnapshot snapshot)).routines,
      UnfoldsThroughout ⟨settings, .ofSnapshot snapshot⟩ routine.statements) :
    PathsAgree ⟨settings, .ofSnapshot snapshot⟩
      (Candidates.collect settings (.ofSnapshot snapshot)).routines := by
  intro a b reachedA reachedB same
  have fitsAll := fun routine collected => (unfolds routine collected).fits
  have body := ((Site.isLoopOf_of_reached rfl reachedA).unique
    (Site.isLoopOf_of_reached rfl reachedB) same).2
  have fitsA := (fitsThroughout_of_reached fitsAll reachedA).fits
  have fitsB := (fitsThroughout_of_reached fitsAll reachedB).fits
  rw [body] at fitsA
  refine ⟨?verdict, fun c met => ?inner⟩
  case verdict =>
    rw [Site.verdict, Site.verdict, body, roleStream_congr fitsA fitsB]
  case inner =>
    have positions := position_sitesOf_congr (a.position + 2) fitsA fitsB
    have position : c.position ∈ (a.inner ⟨settings, .ofSnapshot snapshot⟩).map Site.position :=
      List.mem_map_of_mem met
    rw [Site.inner, body, positions, same] at position
    exact List.mem_map.mp position

/-- Calls unfold throughout the two routines of `shared`, but not in `tree`. -/
example :
    (∀ routine ∈ Example.routinesOf Example.shared,
      UnfoldsThroughout Example.shared routine.statements) ∧
    ¬ UnfoldsThroughout Example.tree Example.treeBody := by
  decide

end ComponentPasses.LoopKeys

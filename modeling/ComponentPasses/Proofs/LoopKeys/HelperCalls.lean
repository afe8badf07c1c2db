import ComponentPasses.Proofs.LoopKeys.Fold
import ComponentPasses.Proofs.Snapshot.Lookup
import Mathlib.Data.List.Nodup
import Mathlib.Logic.Relation

/-!
# Chains of helper calls

The machine of a loop sees the calls among the statements of the loop, those among the statements of
the helpers that these go to, and so on.  Calls inside loops of their own and inside other
statements are not among them.

**Chains.**  `CallChain` lists helpers of which the first is called among some statements and each
other by the one before.  Calls **unfold** (`Unfolds`) if they lead in no circle, and in no chain
that is longer than the settings allow.  The bound alone rules circles out, so it decides whether
calls unfold (`unfolds_iff`).

**Guards.**  A helper on the path is not entered again, and none is entered on a path at its limit.
`Fits` says that neither can happen to a walk of the statements on a path.  It holds of calls that
unfold, on the empty path (`Unfolds.fits`): where no chain comes back to a helper it lists no
identity twice, as a call is answered by the identity of the helper (`Helper.eq_of_identity`).
-/

namespace ComponentPasses.LoopKeys

open Snapshot (Compilation Statement)

variable {context : Context}

/-! ## 1. Helpers and their calls -/

/-- A method that a helper call can go to: what it is known by, and its body. -/
structure Helper where
  identity : String
  body : List Statement

/-- The helper of a symbol: the method declared under it, if it has a body. -/
def Context.helper? (context : Context) (symbol : Option String) : Option Helper :=
  (context.compilation.callee? symbol).bind fun method =>
    method.body.map fun body => ⟨method.identity, body⟩

/-- The helper that a statement calls, if it is a helper call that can be resolved. -/
def Context.called? (context : Context) : Statement → Option Helper
  | .expression (.invocation receiver name arguments symbol _) =>
    if roleOf context.settings receiver name arguments = .helper then context.helper? symbol
    else none
  | _ => none

/-- The helpers that statements call directly, in order. -/
def Context.callsAmong (context : Context) (statements : List Statement) : List Helper :=
  statements.filterMap context.called?

/-- One helper calls another directly. -/
def Context.Calls (context : Context) (helper callee : Helper) : Prop :=
  callee ∈ context.callsAmong helper.body

theorem callsAmong_rest_subset (statement : Statement) (rest : List Statement) :
    context.callsAmong rest ⊆ context.callsAmong (statement :: rest) :=
  (List.sublist_cons_self statement rest).filterMap _ |>.subset

theorem mem_callsAmong_head {statement : Statement} {helper : Helper}
    (called : context.called? statement = some helper) (rest : List Statement) :
    helper ∈ context.callsAmong (statement :: rest) :=
  List.mem_filterMap.mpr ⟨statement, List.mem_cons_self, called⟩

/-- A helper that is called is the helper of a symbol. -/
theorem helper?_of_mem_callsAmong {statements : List Statement} {helper : Helper}
    (called : helper ∈ context.callsAmong statements) :
    ∃ symbol, context.helper? symbol = some helper := by
  obtain ⟨statement, -, called⟩ := List.mem_filterMap.mp called
  unfold Context.called? at called
  split at called
  · rename_i symbol _
    split at called
    · exact ⟨symbol, called⟩
    · cases called
  · cases called

/-- Two helpers that can be called and are known by one identity are one. -/
theorem Helper.eq_of_identity {settings : Settings} {snapshot : Snapshot} {helper other : Helper}
    {symbol symbol' : Option String}
    (found : Context.helper? ⟨settings, .ofSnapshot snapshot⟩ symbol = some helper)
    (found' : Context.helper? ⟨settings, .ofSnapshot snapshot⟩ symbol' = some other)
    (same : helper.identity = other.identity) : helper = other := by
  obtain ⟨method, callee, hasBody⟩ := Option.bind_eq_some_iff.mp found
  obtain ⟨method', callee', hasBody'⟩ := Option.bind_eq_some_iff.mp found'
  obtain ⟨body, declared, rfl⟩ := Option.map_eq_some_iff.mp hasBody
  obtain ⟨body', declared', rfl⟩ := Option.map_eq_some_iff.mp hasBody'
  have same : method.identity = method'.identity := same
  -- both calls look the identity up, so they find the same method
  have asked := (Snapshot.declared_of_callee callee).2.2
  have asked' := (Snapshot.declared_of_callee callee').2.2
  have once : some method = some method' := by
    rw [← callee, ← callee', Compilation.callee?, Compilation.callee?, asked, asked', same]
  cases once
  rw [Option.some_inj.mp (declared.symm.trans declared')]

/-! ## 2. Chains -/

/-- Helpers of which the first is called among the statements, and each other by the one before. -/
inductive CallChain (context : Context) : List Statement → List Helper → Prop
  | nil (statements : List Statement) : CallChain context statements []
  | cons {statements : List Statement} {helper : Helper} {chain : List Helper} :
      helper ∈ context.callsAmong statements → CallChain context helper.body chain →
        CallChain context statements (helper :: chain)

/-- No chain of the calls is longer than the bound. -/
def ChainsWithin (context : Context) (bound : Nat) (statements : List Statement) : Prop :=
  ∀ chain, CallChain context statements chain → chain.length ≤ bound

/-- No helper that the statements lead to leads to itself. -/
def Acyclic (context : Context) (statements : List Statement) : Prop :=
  ∀ first ∈ context.callsAmong statements, ∀ helper,
    Relation.ReflTransGen context.Calls first helper →
      ¬ Relation.TransGen context.Calls helper helper

/-- The helpers that the statements lead to call each other in no circle, and in no chain that is
longer than the settings allow. -/
structure Unfolds (context : Context) (statements : List Statement) : Prop where
  acyclic : Acyclic context statements
  short : ChainsWithin context context.settings.maxInlineDepth statements

theorem CallChain.mono {statements statements' : List Statement} {chain : List Helper}
    (h : CallChain context statements chain)
    (more : context.callsAmong statements ⊆ context.callsAmong statements') :
    CallChain context statements' chain := by
  cases h with
  | nil => exact .nil _
  | cons called inside => exact .cons (more called) inside

/-- Whoever is in a chain of the calls of a helper is reached from the helper. -/
theorem CallChain.transGen_of_mem {statements : List Statement} {chain : List Helper}
    (h : CallChain context statements chain) {helper : Helper} (whole : helper.body = statements) :
    ∀ callee ∈ chain, Relation.TransGen context.Calls helper callee := by
  induction h generalizing helper with
  | nil => exact fun _ none => absurd none List.not_mem_nil
  | cons called _ ih =>
    subst whole
    exact List.forall_mem_cons.mpr
      ⟨.single called, fun callee member => .head called (ih rfl callee member)⟩

/-! ## 3. The bound -/

theorem chainsWithin_zero_iff {statements : List Statement} :
    ChainsWithin context 0 statements ↔ (context.callsAmong statements).isEmpty := by
  rw [List.isEmpty_iff, List.eq_nil_iff_forall_not_mem]
  constructor
  · intro short helper called
    exact absurd (short [helper] (.cons called (.nil _))) (by simp)
  · intro none chain h
    cases h with
    | nil => exact Nat.le_refl _
    | cons called => exact absurd called (none _)

theorem chainsWithin_succ_iff {bound : Nat} {statements : List Statement} :
    ChainsWithin context (bound + 1) statements ↔
      ∀ helper ∈ context.callsAmong statements, ChainsWithin context bound helper.body := by
  constructor
  · intro short helper called chain h
    exact Nat.le_of_succ_le_succ (short (helper :: chain) (.cons called h))
  · intro short chain h
    cases h with
    | nil => exact Nat.zero_le _
    | cons called inside => exact Nat.succ_le_succ (short _ called _ inside)

/-- Whether a bound on the chains holds can be found out. -/
instance decidableChainsWithin (context : Context) :
    (bound : Nat) → (statements : List Statement) →
      Decidable (ChainsWithin context bound statements)
  | 0, _ => decidable_of_iff _ chainsWithin_zero_iff.symm
  | bound + 1, _ =>
    have : (helper : Helper) → Decidable (ChainsWithin context bound helper.body) :=
      fun helper => decidableChainsWithin context bound helper.body
    decidable_of_iff _ chainsWithin_succ_iff.symm

/-- A bound on chains holds of the statements of a helper that is called, too. -/
theorem ChainsWithin.inside {bound : Nat} {statements : List Statement} {helper : Helper}
    (short : ChainsWithin context bound statements)
    (called : helper ∈ context.callsAmong statements) :
    ChainsWithin context bound helper.body :=
  fun chain h => Nat.le_of_succ_le (short (helper :: chain) (.cons called h))

/-- A helper that leads to itself has chains of any length. -/
theorem ChainsWithin.not_transGen {bound : Nat} {helper : Helper}
    (short : ChainsWithin context bound helper.body) :
    ¬ Relation.TransGen context.Calls helper helper := by
  intro circle
  -- one step along the circle is one off the bound, and the circle goes through that helper too
  obtain ⟨callee, called, back⟩ := Relation.TransGen.head'_iff.mp circle
  induction bound generalizing helper callee with
  | zero =>
    have none := List.isEmpty_iff.mp (chainsWithin_zero_iff.mp short)
    exact absurd (none ▸ called : callee ∈ []) List.not_mem_nil
  | succ bound ih =>
    have circle : Relation.TransGen context.Calls callee callee := .tail' back called
    obtain ⟨next, calledNext, backNext⟩ := Relation.TransGen.head'_iff.mp circle
    exact ih (chainsWithin_succ_iff.mp short callee called) circle next calledNext backNext

theorem ChainsWithin.acyclic {bound : Nat} {statements : List Statement}
    (short : ChainsWithin context bound statements) : Acyclic context statements := by
  intro first called helper reached
  have inside : ChainsWithin context bound helper.body := by
    induction reached with
    | refl => exact short.inside called
    | tail _ called ih => exact ih.inside called
  exact inside.not_transGen

/-- Calls unfold exactly if no chain of them is longer than the settings allow. -/
theorem unfolds_iff {statements : List Statement} :
    Unfolds context statements ↔
      ChainsWithin context context.settings.maxInlineDepth statements :=
  ⟨Unfolds.short, fun short => ⟨short.acyclic, short⟩⟩

instance (context : Context) (statements : List Statement) :
    Decidable (Unfolds context statements) :=
  decidable_of_iff _ unfolds_iff.symm

/-! ## 4. The guards -/

/-- The path on which the last helper of a chain is walked. -/
def pathAlong (path : List String) (chain : List Helper) : List String :=
  (chain.map (·.identity)).reverse ++ path

/-- Any path that the calls lead to from a path is without repeats and within the limit. -/
def Fits (context : Context) (path : List String) (statements : List Statement) : Prop :=
  ∀ chain, CallChain context statements chain →
    (pathAlong path chain).Nodup ∧
      (pathAlong path chain).length ≤ context.settings.maxInlineDepth

section Fits

variable {path : List String} {statements : List Statement} {helper : Helper}

theorem pathAlong_cons (chain : List Helper) :
    pathAlong path (helper :: chain) = pathAlong (helper.identity :: path) chain := by
  simp [pathAlong]

theorem Fits.rest {statement : Statement} {rest : List Statement}
    (fits : Fits context path (statement :: rest)) : Fits context path rest :=
  fun chain h => fits chain (h.mono (callsAmong_rest_subset statement rest))

theorem Fits.inside (fits : Fits context path statements)
    (called : helper ∈ context.callsAmong statements) :
    Fits context (helper.identity :: path) helper.body :=
  fun chain h => pathAlong_cons chain ▸ fits (helper :: chain) (.cons called h)

/-- A helper that is called is not on the path. -/
theorem Fits.fresh (fits : Fits context path statements)
    (called : helper ∈ context.callsAmong statements) : helper.identity ∉ path :=
  (List.nodup_cons.mp (fits [helper] (.cons called (.nil _))).1).1

/-- Where a helper is called the path is not at its limit. -/
theorem Fits.length_lt (fits : Fits context path statements)
    (called : helper ∈ context.callsAmong statements) :
    path.length < context.settings.maxInlineDepth :=
  (fits [helper] (.cons called (.nil _))).2

end Fits

/-- In a program without circles, a chain lists no identity twice. -/
theorem CallChain.nodup_identity {settings : Settings} {snapshot : Snapshot}
    {statements : List Statement} {chain : List Helper}
    (h : CallChain ⟨settings, .ofSnapshot snapshot⟩ statements chain)
    (acyclic : Acyclic ⟨settings, .ofSnapshot snapshot⟩ statements) :
    (chain.map (·.identity)).Nodup := by
  induction h with
  | nil => exact List.nodup_nil
  | @cons statements helper chain called inside ih =>
    refine List.nodup_cons.mpr ⟨?_, ih ?_⟩
    · intro again
      obtain ⟨callee, member, same⟩ := List.mem_map.mp again
      have reached := inside.transGen_of_mem rfl callee member
      -- the helper of the same identity further down is the helper itself
      obtain ⟨caller, -, lastCall⟩ := Relation.TransGen.tail'_iff.mp reached
      obtain ⟨symbol, found⟩ := helper?_of_mem_callsAmong called
      obtain ⟨symbol', found'⟩ := helper?_of_mem_callsAmong lastCall
      cases Helper.eq_of_identity found' found same
      exact acyclic helper called helper .refl reached
    · exact fun first calledFirst callee reached =>
        acyclic helper called callee (.head calledFirst reached)

/-- Neither guard stops a call in the walk of a loop whose calls unfold. -/
theorem Unfolds.fits {settings : Settings} {snapshot : Snapshot} {statements : List Statement}
    (unfolds : Unfolds ⟨settings, .ofSnapshot snapshot⟩ statements) :
    Fits ⟨settings, .ofSnapshot snapshot⟩ [] statements := by
  intro chain h
  rw [pathAlong, List.append_nil, List.nodup_reverse, List.length_reverse, List.length_map]
  exact ⟨h.nodup_identity unfolds.acyclic, unfolds.short chain h⟩

end ComponentPasses.LoopKeys

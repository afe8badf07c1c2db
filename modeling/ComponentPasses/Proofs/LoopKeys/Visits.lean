import ComponentPasses.Proofs.LoopKeys.Invariant

/-!
# Which loops are visited, and how

Whatever helpers call each other, and whatever loops stand inside them, the analysis ends.  On its
way no helper is entered inside itself, and none beyond the limit of the settings: a call path is a
list of declared method symbols without repeats (`IsCallPath`).  Each loop is visited at most once,
and each loop directly inside a render routine once; nothing but a visited loop is reported
(`analyze_visits`).
-/

namespace ComponentPasses.LoopKeys

open Snapshot (declaredMethods given? StandsAt Statement)

open StateTransition (Reaches)

variable {settings : Settings} {snapshot : Snapshot}

/-! ## 1. Call paths -/

/-- The symbols under which a snapshot declares methods, in the order of the declarations. -/
def methodSymbols (snapshot : Snapshot) : List String :=
  (declaredMethods snapshot).filterMap fun method => given? method.symbol

/-- A list of helpers that can be open at once: declared methods without repeats, no more of them
than the limit allows. -/
structure IsCallPath (limit : Nat) (snapshot : Snapshot) (path : List String) : Prop where
  nodup : path.Nodup
  declared : path ⊆ methodSymbols snapshot
  short : path.length ≤ limit

theorem isCallPath_nil (limit : Nat) : IsCallPath limit snapshot [] :=
  ⟨List.nodup_nil, List.nil_subset _, Nat.zero_le _⟩

/-- A helper that a walk enters is a declared method. -/
theorem mem_methodSymbols_of_entered {path : List String} {symbol : Option String}
    {identity : String} {position : Nat} {body : List Statement}
    (entered : Context.helperCall ⟨settings, .ofSnapshot snapshot⟩ path symbol =
      .entered identity position body) : identity ∈ methodSymbols snapshot := by
  obtain ⟨method, callee, -, rfl, -⟩ := Context.method_of_entered entered
  obtain ⟨declared, under, -⟩ := Snapshot.declared_of_callee callee
  exact List.mem_filterMap.mpr ⟨method, declared, under⟩

/-- A helper that a walk enters goes onto its call path. -/
theorem IsCallPath.cons {path : List String} {symbol : Option String} {identity : String}
    {position : Nat} {body : List Statement}
    (h : IsCallPath settings.maxInlineDepth snapshot path)
    (entered : Context.helperCall ⟨settings, .ofSnapshot snapshot⟩ path symbol =
      .entered identity position body) :
    IsCallPath settings.maxInlineDepth snapshot (identity :: path) := by
  obtain ⟨-, -, -, -, -, fresh, room⟩ := Context.method_of_entered entered
  exact ⟨List.nodup_cons.mpr ⟨fresh, h.nodup⟩,
    List.cons_subset.mpr ⟨mem_methodSymbols_of_entered entered, h.declared⟩, room⟩

theorem kept_isCallPath :
    Kept ⟨settings, .ofSnapshot snapshot⟩ fun stretch =>
      IsCallPath settings.maxInlineDepth snapshot stretch.path := by
  intro stretch next h leads
  cases leads with
  | rest => exact h
  | loop => exact h
  | helper entered => exact h.cons entered

/-- All that is left in a state that a run reaches is reached on call paths. -/
theorem sound_isCallPath {routines : List RenderRoutine} {state : State}
    (reaches : Reaches (step ⟨settings, .ofSnapshot snapshot⟩) (.start routines) state) :
    Sound ⟨settings, .ofSnapshot snapshot⟩
      (fun stretch => IsCallPath settings.maxInlineDepth snapshot stretch.path) state :=
  Sound.of_reaches kept_isCallPath (fun _ _ => isCallPath_nil _) reaches

/-! ## 2. Places -/

/-- The statements of a stretch stand in a snapshot where the stretch says. -/
def Stretch.StandsIn (snapshot : Snapshot) (stretch : Stretch) : Prop :=
  StandsAt snapshot.nodes stretch.position (Statement.nodesOf stretch.statements)

theorem kept_standsIn :
    Kept ⟨settings, .ofSnapshot snapshot⟩ (Stretch.StandsIn snapshot) := by
  intro stretch next h leads
  cases leads with
  | rest => exact (standsAt_cons h).2
  | loop => exact (isLoopOf_head [] (standsAt_cons h).1).standsAt_body
  | helper entered =>
    obtain ⟨method, callee, declared, rfl, rfl, -⟩ := Context.method_of_entered entered
    exact StandsAt.body_of_callee callee declared

/-! ## 3. Visits -/

namespace Example

/-- A render routine whose loop calls a helper, and two helpers that call each other, one of them
inside a loop. -/
def mutualFile : Snapshot :=
  fileOf [
    method "BuildRenderTree" "Page" [loop 1 [helperCall "Rows"]],
    method "Rows" "Rows" [call "OpenElement", loop 2 [helperCall "Cells"], call "CloseElement"],
    method "Cells" "Cells" [helperCall "Rows", call "OpenElement", call "CloseElement"]]

theorem compilation_mutualFile : Snapshot.Compilation.ofSnapshot mutualFile =
    ⟨mutualFile, [], [
      ("Page", ⟨0, "BuildRenderTree", some "Page", some [loop 1 [helperCall "Rows"]]⟩),
      ("Rows", ⟨7, "Rows", some "Rows",
        some [call "OpenElement", loop 2 [helperCall "Cells"], call "CloseElement"]⟩),
      ("Cells", ⟨18, "Cells", some "Cells",
        some [helperCall "Rows", call "OpenElement", call "CloseElement"]⟩)]⟩ := rfl

theorem routinesOf_mutualFile : routinesOf ⟨{}, .ofSnapshot mutualFile⟩ =
    [⟨"Page", {}, [loop 1 [helperCall "Rows"]], 2⟩] := rfl

end Example

/-- The analysis of any render routines ends, whatever calls what.  Every stretch of statements that
it looks through on its way is reached on a call path.  It visits no position twice, and each loop
directly inside one of the routines once; it reports only loops that it visits, each where its
keyword stands.  If the routines stand in the snapshot, then so do the loops visited. -/
theorem analyze_visits (settings : Settings) (snapshot : Snapshot)
    (routines : List RenderRoutine) :
    let context : Context := ⟨settings, .ofSnapshot snapshot⟩
    let analysis := analyze context routines
    ∃ entered : List Site,
      StateTransition.eval (step context) (.start routines) = .some (.done entered analysis.2) ∧
      analysis.1 = (entered.map Site.position).reverse ∧
      (∀ state, Reaches (step context) (.start routines) state → ∀ walk ∈ state.walks,
        ∀ stretch ∈ walk.left, IsCallPath settings.maxInlineDepth snapshot stretch.path) ∧
      (entered.map Site.position).Nodup ∧
      (∀ routine ∈ routines, ∀ site ∈ loopsAmong routine.position routine.statements,
        (entered.map Site.position).count site.position = 1) ∧
      (∀ diagnostic ∈ findings analysis.2, ∃ site ∈ entered,
        diagnostic = .keylessLoop site.keyword) ∧
      ((∀ routine ∈ routines,
          StandsAt snapshot.nodes routine.position (Statement.nodesOf routine.statements)) →
        ∀ site ∈ entered, site.IsLoopOf snapshot) := by
  intro context analysis
  obtain ⟨entered, visited, ends⟩ := done_mem_eval context routines
  have reached := (StateTransition.mem_eval.mp ends).1
  have final := sound_isCallPath reached
  refine ⟨entered, Part.eq_some_iff.mpr ends, visited, ?paths, final.once, ?outer, ?reports,
    ?places⟩
  case paths => exact fun state h => (sound_isCallPath h).left
  case outer =>
    intro routine given site inside
    obtain ⟨trail, explores, -⟩ := analyzeRoutines_explores context [] routines
    have met := explores.key_mem_of_mem_met site (List.mem_flatMap.mpr ⟨routine, given, inside⟩)
    refine List.count_eq_one_of_mem final.once ?_
    exact List.mem_reverse.mp (visited ▸ met)
  case reports =>
    intro diagnostic found
    obtain ⟨remark, made, reported⟩ := List.mem_filterMap.mp found
    cases final.caused remark made with
    | entering => cases reported
    | refusing => cases reported
    | reporting known => exact ⟨_, known, (Option.some.inj reported).symm⟩
  case places =>
    intro placed site known
    have final := Sound.of_reaches (P := Stretch.StandsIn snapshot) kept_standsIn placed reached
    obtain ⟨kind, rest, here⟩ := final.met site known
    exact isLoopOf_head site.path (standsAt_cons here).1

open LoopKeys.Example in
/-- In `mutualFile`, the loop inside `Rows` is visited from within the loop of the render routine.
What it calls leads back to `Rows`, and to no third visit. -/
theorem analyze_visits_mutual :
    let context : Context := ⟨{}, .ofSnapshot mutualFile⟩
    let routines := routinesOf context
    ∃ entered : List Site,
      StateTransition.eval (step context) (.start routines) =
        .some (.done entered (analyze context routines).2) ∧
      entered.map Site.position = [2, 11] ∧ ∀ site ∈ entered, site.IsLoopOf mutualFile := by
  intro context routines
  obtain ⟨entered, ends, visited, -, -, -, -, places⟩ := analyze_visits {} mutualFile routines
  have both : (analyze context routines).1 = [11, 2] := by
    simp only [routines, context, routinesOf_mutualFile, compilation_mutualFile]
    cbv
  refine ⟨entered, ends, ?_, places ?_⟩
  · rw [← List.reverse_inj, ← visited, both]
    rfl
  · exact fun routine given => standsAt_of_mem_routines given

end ComponentPasses.LoopKeys

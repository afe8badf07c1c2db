import ComponentPasses.Proofs.LoopKeys.Order
import Mathlib.Computability.StateTransition

/-!
# The analysis, step by step

A run of the loop analysis is told here one statement at a time.  A **state** holds what is still to
be looked at: the stretches of the render routines, and for each walk that has begun and not ended,
its machine and the stretches left, the innermost helper's first.  `step` looks at the next
statement, or drops what is done; it has nothing to do where nothing is left.

The steps from the start of a run always end, and they end in what `analyze` yields
(`done_mem_eval`).  `StateTransition.eval` is what a step function comes to if its steps end, and
nothing if they go on for ever, so this says of the recursion of `walk` that it stops, and where.
-/

namespace ComponentPasses.LoopKeys

open Snapshot (Location LoopKind Statement Expression)

open StateTransition (Reaches)

variable {context : Context}

/-! ## 1. States and steps -/

/-- Statements still to be looked at, reached on a path; the first stands at the position. -/
structure Stretch where
  path : List String
  position : Nat
  statements : List Statement

/-- A walk that has begun and not ended: the site of its loop, its machine, and the stretches left,
the innermost helper's first. -/
structure OpenWalk where
  site : Site
  machine : Machine
  left : List Stretch

/-- A run between two steps: the stretches left of the routines, the walks that are open, innermost
first, and the sites of the loops entered and the remarks made so far, in order. -/
structure State where
  outer : List Stretch
  walks : List OpenWalk
  entered : List Site
  remarks : List Remark

/-- What a statement comes to in a walk. -/
inductive Action
  | pass
  | meet (kind : LoopKind) (site : Site)
  | call (role : Role)
  | follow (helper : Stretch)
  | refuse (name : String) (refusal : Refusal)

/-- What a statement at a position comes to in a walk that is on a path. -/
def actionOf (context : Context) (path : List String) (position : Nat) : Statement → Action
  | .loop kind keyword (.block body) => .meet kind ⟨position, keyword, body, path⟩
  | .expression (.invocation receiver name arguments symbol _) =>
    match roleOf context.settings receiver name arguments with
    | .helper =>
      match context.helperCall path symbol with
      | .entered identity start body => .follow ⟨identity :: path, start, body⟩
      | .refused refusal => .refuse name refusal
    | role => .call role
  | _ => .pass

namespace State

/-- The state in which a walk is open inside those that are. -/
def inWalk (state : State) (walk : OpenWalk) : State :=
  { state with walks := walk :: state.walks }

/-- Makes a remark. -/
def remark (state : State) (remark : Remark) : State :=
  { state with remarks := state.remarks ++ [remark] }

/-- Enters a loop, unless one at its position was entered before. -/
def meet (state : State) (kind : LoopKind) (site : Site) : State :=
  if site.position ∈ state.entered.map Site.position then state
  else
    { state with
      walks := ⟨site, {}, [⟨site.path, site.position + 2, site.body⟩]⟩ :: state.walks
      entered := state.entered ++ [site]
      remarks := state.remarks ++ [loopRemark kind site.keyword] }

/-- Does in a walk what a statement comes to; the state is that around the walk. -/
def act (state : State) (walk : OpenWalk) : Action → State
  | .pass => state.inWalk walk
  | .meet kind site => (state.inWalk walk).meet kind site
  | .call role =>
    let stepped := state.inWalk { walk with machine := walk.machine.step role }
    if walk.machine.reports role then stepped.remark (.reported (.keylessLoop walk.site.keyword))
    else stepped
  | .follow helper => state.inWalk { walk with left := helper :: walk.left }
  | .refuse name refusal => (state.inWalk walk).remark (helperRemark name refusal)

/-- Looks at a statement outside all walks: only loops count there. -/
def look (state : State) (path : List String) (position : Nat) : Statement → State
  | .loop kind keyword (.block body) => state.meet kind ⟨position, keyword, body, path⟩
  | _ => state

end State

/-- Looks at the next statement in a walk, or drops what is done; the state is that around the
walk. -/
def stepWalk (context : Context) (state : State) (walk : OpenWalk) : State :=
  match walk.left with
  | [] => state
  | ⟨_, _, []⟩ :: left => state.inWalk { walk with left := left }
  | ⟨path, position, statement :: rest⟩ :: left =>
    state.act { walk with left := ⟨path, position + statement.count, rest⟩ :: left }
      (actionOf context path position statement)

/-- Looks at the next statement outside all walks, or drops a routine that is done. -/
def stepOutside (state : State) : Option State :=
  match state.outer with
  | [] => none
  | ⟨_, _, []⟩ :: outer => some { state with outer := outer }
  | ⟨path, position, statement :: rest⟩ :: outer =>
    some (State.look { state with outer := ⟨path, position + statement.count, rest⟩ :: outer }
      path position statement)

/-- One step of a run. -/
def step (context : Context) (state : State) : Option State :=
  match state.walks with
  | [] => stepOutside state
  | walk :: walks => some (stepWalk context { state with walks := walks } walk)

/-- The state before a run over render routines. -/
def State.start (routines : List RenderRoutine) : State where
  outer := routines.map fun routine => ⟨[], routine.position, routine.statements⟩
  walks := []
  entered := []
  remarks := []

/-- The state in which nothing is left. -/
def State.done (entered : List Site) (remarks : List Remark) : State :=
  ⟨[], [], entered, remarks⟩

/-! ## 2. The steps compute the analysis -/

section Steps

variable {path : List String} {position : Nat} {receiver : Option String} {name : String}
  {arguments : List Expression} {symbol : Option String} {location : Location}

theorem actionOf_of_entered {identity : String} {start : Nat} {body : List Statement}
    (helper : roleOf context.settings receiver name arguments = .helper)
    (entered : context.helperCall path symbol = .entered identity start body) :
    actionOf context path position
        (.expression (.invocation receiver name arguments symbol location)) =
      .follow ⟨identity :: path, start, body⟩ := by
  simp only [actionOf, helper, entered]

theorem actionOf_of_refused {refusal : Refusal}
    (helper : roleOf context.settings receiver name arguments = .helper)
    (refused : context.helperCall path symbol = .refused refusal) :
    actionOf context path position
        (.expression (.invocation receiver name arguments symbol location)) =
      .refuse name refusal := by
  simp only [actionOf, helper, refused]

theorem actionOf_of_role (plain : roleOf context.settings receiver name arguments ≠ .helper) :
    actionOf context path position
        (.expression (.invocation receiver name arguments symbol location)) =
      .call (roleOf context.settings receiver name arguments) := by
  rw [actionOf]
  split
  · rename_i helper
    exact absurd helper plain
  · rfl

/-- Any statement but a loop around a block and a call is passed over. -/
theorem actionOf_of_other {statement : Statement}
    (notLoop : ∀ kind keyword body, statement = .loop kind keyword (.block body) → False)
    (notCall : ∀ receiver name arguments symbol location,
      statement = .expression (.invocation receiver name arguments symbol location) → False) :
    actionOf context path position statement = .pass := by
  unfold actionOf
  split
  · exact absurd rfl (notLoop _ _ _)
  · exact absurd rfl (notCall _ _ _ _ _)
  · rfl

end Steps

/-- The next statement of the innermost walk comes to its action. -/
theorem step_walk (outer : List Stretch) (site : Site) (machine : Machine) (path : List String)
    (position : Nat) (statement : Statement) (rest : List Statement) (left : List Stretch)
    (walks : List OpenWalk) (entered : List Site) (remarks : List Remark) :
    step context ⟨outer, ⟨site, machine, ⟨path, position, statement :: rest⟩ :: left⟩ :: walks,
        entered, remarks⟩ =
      some (State.act ⟨outer, walks, entered, remarks⟩
        ⟨site, machine, ⟨path, position + statement.count, rest⟩ :: left⟩
        (actionOf context path position statement)) := rfl

theorem State.meet_of_known {state : State} {site : Site} (kind : LoopKind)
    (known : site.position ∈ state.entered.map Site.position) : state.meet kind site = state :=
  if_pos known

theorem State.meet_of_fresh {state : State} {site : Site} (kind : LoopKind)
    (fresh : site.position ∉ state.entered.map Site.position) :
    state.meet kind site =
      { state with
        walks := ⟨site, {}, [⟨site.path, site.position + 2, site.body⟩]⟩ :: state.walks
        entered := state.entered ++ [site]
        remarks := state.remarks ++ [loopRemark kind site.keyword] } :=
  if_neg fresh

/-- The steps through a stretch do what the walk of its statements does. -/
theorem walk_reaches (context : Context) (loop : Nat) (keyword : Location) (path : List String)
    (position : Nat) (machine : Machine) (visited : List Nat) (statements : List Statement)
    (site : Site) (its : site.keyword = keyword) (left : List Stretch) (outer : List Stretch)
    (walks : List OpenWalk) (entered : List Site) (remarks : List Remark)
    (known : visited = (entered.map Site.position).reverse) :
    ∃ trail,
      (walk context loop keyword path position machine visited statements).visited =
        ((entered ++ trail).map Site.position).reverse ∧
      Reaches (step context)
        ⟨outer, ⟨site, machine, ⟨path, position, statements⟩ :: left⟩ :: walks, entered, remarks⟩
        ⟨outer, ⟨site, (walk context loop keyword path position machine visited statements).machine,
            left⟩ :: walks, entered ++ trail,
          remarks ++ (walk context loop keyword path position machine visited statements).notes.map
            (·.remark)⟩ := by
  fun_induction walk context loop keyword path position machine visited statements
    generalizing site left walks entered remarks with
  | case1 loop keyword path position machine visited =>
    refine ⟨[], by simpa using known, ?_⟩
    simp only [List.map_nil, List.append_nil]
    exact .single rfl
  | case2 loop keyword path position machine visited kind inner body rest next seen ih =>
    obtain ⟨trail, visited_eq, reaches⟩ := ih site its left walks entered remarks known
    refine ⟨trail, visited_eq, .head ?_ reaches⟩
    have seen : position ∈ entered.map Site.position := by simpa [known] using seen
    rw [Option.mem_def, step_walk, actionOf, State.act, State.meet_of_known kind seen]
    rfl
  | case3 loop keyword path position machine visited kind inner body rest next fresh nested after
      ihNested ihAfter =>
    have fresh : position ∉ entered.map Site.position := by simpa [known] using fresh
    -- the walk of the loop inside runs on its own stretch, and is closed before the rest
    obtain ⟨below, nested_eq, inside⟩ := ihNested ⟨position, inner, body, path⟩ rfl []
      (⟨site, machine, ⟨path, next, rest⟩ :: left⟩ :: walks)
      (entered ++ [⟨position, inner, body, path⟩]) (remarks ++ [loopRemark kind inner])
      (by simp [known])
    obtain ⟨trail, after_eq, onwards⟩ := ihAfter site its left walks _
      (remarks ++ loopRemark kind inner :: nested.notes.map (·.remark)) nested_eq
    refine ⟨⟨position, inner, body, path⟩ :: below ++ trail, by simpa using after_eq, ?_⟩
    refine .head ?_ (inside.trans (.head rfl ?_))
    · rw [Option.mem_def, step_walk, actionOf, State.act, State.meet_of_fresh kind fresh]
      rfl
    · simpa [stepWalk, Reaches, nested, after] using onwards
  | case4 loop keyword path position machine visited receiver name arguments symbol location rest
      next helper identity start body follows helped after ihHelped =>
    rename_i ihAfter
    obtain ⟨inside, helped_eq, through⟩ := ihHelped site its
      (⟨path, next, rest⟩ :: left) walks entered remarks known
    obtain ⟨trail, after_eq, onwards⟩ := ihAfter site its left walks _
      (remarks ++ helped.notes.map (·.remark)) helped_eq
    refine ⟨inside ++ trail, by simpa using after_eq, .head ?_ (through.trans ?_)⟩
    · rw [Option.mem_def, step_walk, actionOf_of_entered helper follows]
      rfl
    · simpa [Reaches, helped, after] using onwards
  | case5 loop keyword path position machine visited receiver name arguments symbol location rest
      next helper refusal refused after =>
    rename_i ih
    obtain ⟨trail, visited_eq, reaches⟩ := ih site its left walks entered
      (remarks ++ [helperRemark name refusal]) known
    rw [List.append_assoc] at reaches
    refine ⟨trail, visited_eq, .head ?_ reaches⟩
    rw [Option.mem_def, step_walk, actionOf_of_refused helper refused]
    rfl
  | case6 loop keyword path position machine visited receiver name arguments symbol location rest
      next plain after reports =>
    rename_i ih
    obtain ⟨trail, visited_eq, reaches⟩ := ih site its left walks entered
      (remarks ++ [.reported (.keylessLoop keyword)]) known
    rw [List.append_assoc] at reaches
    refine ⟨trail, visited_eq, .head ?_ reaches⟩
    rw [Option.mem_def, step_walk, actionOf_of_role plain, State.act, if_pos reports, ← its]
    rfl
  | case7 loop keyword path position machine visited receiver name arguments symbol location rest
      next plain after silent =>
    rename_i ih
    obtain ⟨trail, visited_eq, reaches⟩ := ih site its left walks entered remarks known
    refine ⟨trail, visited_eq, .head ?_ reaches⟩
    rw [Option.mem_def, step_walk, actionOf_of_role plain, State.act, if_neg silent]
    rfl
  | case8 loop keyword path position machine visited statement rest notLoop notCall =>
    rename_i ih
    obtain ⟨trail, visited_eq, reaches⟩ := ih site its left walks entered remarks known
    refine ⟨trail, visited_eq, .head ?_ reaches⟩
    rw [Option.mem_def, step_walk, actionOf_of_other notLoop notCall]
    rfl

/-- Meeting a loop outside all walks leads to what the analysis of the loop does. -/
theorem analyzeLoop_reaches (context : Context) (visited : List Nat) (position : Nat)
    (kind : LoopKind) (keyword : Location) (body : List Statement) (outer : List Stretch)
    (entered : List Site) (remarks : List Remark)
    (known : visited = (entered.map Site.position).reverse) :
    ∃ trail,
      (analyzeLoop context [] visited position kind keyword (.block body)).1 =
        ((entered ++ trail).map Site.position).reverse ∧
      Reaches (step context)
        (State.meet ⟨outer, [], entered, remarks⟩ kind ⟨position, keyword, body, []⟩)
        ⟨outer, [], entered ++ trail,
          remarks ++ (analyzeLoop context [] visited position kind keyword (.block body)).2⟩ := by
  by_cases seen : position ∈ visited
  · have seen' : position ∈ entered.map Site.position := by simpa [known] using seen
    refine ⟨[], by simpa [analyzeLoop, blockBody?, seen] using known, ?_⟩
    rw [State.meet_of_known kind seen']
    simpa [Reaches, analyzeLoop, blockBody?, seen] using .refl
  · have fresh : position ∉ entered.map Site.position := by simpa [known] using seen
    let site : Site := ⟨position, keyword, body, []⟩
    let progress := walkLoop context [] visited position keyword body
    have analyzed : analyzeLoop context [] visited position kind keyword (.block body) =
        (progress.visited, loopRemark kind keyword :: progress.notes.map (·.remark)) := by
      simp [analyzeLoop, blockBody?, seen, progress]
    obtain ⟨below, visited_eq, inside⟩ := walk_reaches context position keyword []
      (position + 2) {} (position :: visited) body site rfl [] outer []
      (entered ++ [site]) (remarks ++ [loopRemark kind keyword]) (by simp [known, site])
    refine ⟨site :: below, by simpa [analyzed, progress, walkLoop] using visited_eq, ?_⟩
    -- after the last statement the walk is closed
    rw [State.meet_of_fresh kind fresh]
    simpa [stepWalk, Reaches, analyzed, progress, walkLoop] using inside.tail rfl

/-- The steps through the statements of a routine do what the analysis of the loops among them
does. -/
theorem analyzeStatements_reaches (context : Context) (visited : List Nat) (position : Nat)
    (statements : List Statement) (outer : List Stretch) (entered : List Site)
    (remarks : List Remark) (known : visited = (entered.map Site.position).reverse) :
    ∃ trail,
      (analyzeStatements context visited position statements).1 =
        ((entered ++ trail).map Site.position).reverse ∧
      Reaches (step context) ⟨⟨[], position, statements⟩ :: outer, [], entered, remarks⟩
        ⟨outer, [], entered ++ trail,
          remarks ++ (analyzeStatements context visited position statements).2⟩ := by
  induction statements generalizing visited position entered remarks with
  | nil =>
    refine ⟨[], by simpa [analyzeStatements] using known, ?_⟩
    simp only [analyzeStatements, List.append_nil]
    exact .single rfl
  | cons statement rest ih =>
    cases statement with
    | loop kind keyword body => cases body with
      | block body =>
        obtain ⟨below, inside_eq, inside⟩ := analyzeLoop_reaches context visited position kind
          keyword body (⟨[], position + (Statement.loop kind keyword (.block body)).count, rest⟩ ::
            outer) entered remarks known
        obtain ⟨trail, visited_eq, onwards⟩ := ih _ _ _
          (remarks ++ (analyzeLoop context [] visited position kind keyword (.block body)).2)
          inside_eq
        refine ⟨below ++ trail, by simpa [analyzeStatements] using visited_eq,
          .head rfl (inside.trans ?_)⟩
        simpa [Reaches, analyzeStatements] using onwards
      | loop _ _ _ | expression _ | other _ _ _ =>
        obtain ⟨trail, visited_eq, reaches⟩ := ih visited _ entered remarks known
        exact ⟨trail, visited_eq, .head rfl reaches⟩
    | block _ | expression _ | other _ _ _ =>
      obtain ⟨trail, visited_eq, reaches⟩ := ih visited _ entered remarks known
      exact ⟨trail, visited_eq, .head rfl reaches⟩

theorem analyzeRoutines_reaches (context : Context) (visited : List Nat)
    (routines : List RenderRoutine) (entered : List Site) (remarks : List Remark)
    (known : visited = (entered.map Site.position).reverse) :
    ∃ trail,
      (analyzeRoutines context visited routines).1 =
        ((entered ++ trail).map Site.position).reverse ∧
      Reaches (step context) { State.start routines with entered, remarks }
        (.done (entered ++ trail) (remarks ++ (analyzeRoutines context visited routines).2)) := by
  induction routines generalizing visited entered remarks with
  | nil =>
    refine ⟨[], by simpa [analyzeRoutines] using known, ?_⟩
    simp only [analyzeRoutines, List.append_nil]
    exact .refl
  | cons routine rest ih =>
    obtain ⟨first, first_eq, through⟩ := analyzeStatements_reaches context visited
      routine.position routine.statements (State.start rest).outer entered remarks known
    obtain ⟨others, others_eq, onwards⟩ := ih _ _
      (remarks ++ (analyzeRoutine context visited routine).2) first_eq
    refine ⟨first ++ others, ?_, through.trans ?_⟩
    · simpa [analyzeRoutines, analyzeRoutine] using others_eq
    · simpa [Reaches, State.start, analyzeRoutines, analyzeRoutine] using onwards

/-- The steps of a run over render routines end, in what the analysis yields. -/
theorem done_mem_eval (context : Context) (routines : List RenderRoutine) :
    ∃ entered,
      (analyze context routines).1 = (entered.map Site.position).reverse ∧
      State.done entered (analyze context routines).2 ∈
        StateTransition.eval (step context) (.start routines) := by
  obtain ⟨trail, visited_eq, reaches⟩ :=
    analyzeRoutines_reaches context [] routines [] [] rfl
  exact ⟨trail, visited_eq, StateTransition.mem_eval.mpr ⟨reaches, rfl⟩⟩

end ComponentPasses.LoopKeys

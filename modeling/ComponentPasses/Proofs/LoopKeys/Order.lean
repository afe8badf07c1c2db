import ComponentPasses.Proofs.LoopKeys.Exploration
import ComponentPasses.Proofs.LoopKeys.Fold
import ComponentPasses.Proofs.Snapshot.Lookup
import Mathlib.Data.List.Permutation

/-!
# The order of render routines

A run walks each loop once, on the path of whoever reaches it first.  So a run is an exploration of
**sites**: a site is a loop together with a path on which it is reached, its key is the position of
the loop, and it leads to the sites that its body meets, inside helper bodies too.  The reports of a
run are those of the sites it enters (`analyzeRoutines_explores`).

Two sites of one loop may differ in what they report and lead to, because a path decides which
helper calls are followed; then the order of the routines shows in the reports
(`analyze_order_shows`).  Where the sites of a loop that the routines can reach always agree
(`PathsAgree`), it does not (`analyze_order_hidden`).
-/

namespace ComponentPasses.LoopKeys

open Snapshot (Compilation Location LoopKind Statement Expression Node StandsAt)

open scoped List

variable {context : Context}

/-! ## 1. Sites -/

/-- A loop with a block for a body, and a path on which a walk reaches it. -/
structure Site where
  position : Nat
  keyword : Location
  body : List Statement
  path : List String

/-- The sites that a walk of statements meets, the first of which stands at `position`: loops among
the statements, and those in the bodies of helpers that are followed. -/
def sitesOf (context : Context) (path : List String) (position : Nat) :
    List Statement → List Site
  | [] => []
  | .loop kind keyword (.block body) :: rest =>
    ⟨position, keyword, body, path⟩ ::
      sitesOf context path (position + (Statement.loop kind keyword (.block body)).count) rest
  | .expression (.invocation receiver name arguments symbol location) :: rest =>
    let next :=
      position + (Statement.expression (.invocation receiver name arguments symbol location)).count
    match roleOf context.settings receiver name arguments with
    | .helper =>
      match _entered : context.helperCall path symbol with
      | .entered identity start body =>
        sitesOf context (identity :: path) start body ++ sitesOf context path next rest
      | .refused _ => sitesOf context path next rest
    | _ => sitesOf context path next rest
  | statement :: rest => sitesOf context path (position + statement.count) rest
termination_by statements => (context.settings.maxInlineDepth - path.length, sizeOf statements)
decreasing_by
  all_goals first
    | (apply Prod.Lex.left
       have := Context.length_lt_of_entered _entered
       simp only [List.length_cons]; omega)
    | (apply Prod.Lex.right
       simp only [List.cons.sizeOf_spec]
       omega)

namespace Site

/-- The sites that the walk of a site meets. -/
def inner (context : Context) (site : Site) : List Site :=
  sitesOf context site.path (site.position + 2) site.body

/-- How often a loop is reported that is judged at a site. -/
def verdict (context : Context) (site : Site) : Nat :=
  ((⟨-1, false⟩ : Machine).run (roleStream context site.path site.body)).2

/-- The reports of a loop that is judged at a site. -/
def reports (context : Context) (site : Site) : List Diagnostic :=
  List.replicate (site.verdict context) (.keylessLoop site.keyword)

end Site

/-- The findings among notes, in order. -/
def findingsOf (notes : List Note) : List Diagnostic :=
  findings (notes.map (·.remark))

section Steps

variable {path : List String} {position : Nat} {receiver : Option String} {name : String}
  {arguments : List Expression} {symbol : Option String} {location : Location}
  {rest : List Statement}

theorem sitesOf_of_entered {identity : String} {start : Nat} {body : List Statement}
    (helper : roleOf context.settings receiver name arguments = .helper)
    (entered : context.helperCall path symbol = .entered identity start body) :
    sitesOf context path position
        (.expression (.invocation receiver name arguments symbol location) :: rest) =
      sitesOf context (identity :: path) start body ++
        sitesOf context path (position +
          (Statement.expression (.invocation receiver name arguments symbol location)).count)
          rest := by
  rw [sitesOf, helper]
  simp only
  split
  · rename_i found
    rw [entered] at found
    cases found
    rfl
  · rename_i refused
    rw [entered] at refused
    cases refused

theorem sitesOf_of_refused {refusal : Refusal}
    (helper : roleOf context.settings receiver name arguments = .helper)
    (refused : context.helperCall path symbol = .refused refusal) :
    sitesOf context path position
        (.expression (.invocation receiver name arguments symbol location) :: rest) =
      sitesOf context path (position +
        (Statement.expression (.invocation receiver name arguments symbol location)).count)
        rest := by
  rw [sitesOf, helper]
  simp only
  split
  · rename_i found
    rw [refused] at found
    cases found
  · rfl

theorem sitesOf_of_role (plain : roleOf context.settings receiver name arguments ≠ .helper) :
    sitesOf context path position
        (.expression (.invocation receiver name arguments symbol location) :: rest) =
      sitesOf context path (position +
        (Statement.expression (.invocation receiver name arguments symbol location)).count)
        rest := by
  rw [sitesOf]
  split
  · rename_i helper
    exact absurd helper plain
  · rfl

end Steps

/-! ## 2. A walk explores -/

theorem findingsOf_append (front back : List Note) :
    findingsOf (front ++ back) = findingsOf front ++ findingsOf back := by
  simp [findingsOf, findings]

theorem findingsOf_cons_silent {note : Note} {notes : List Note}
    (h : note.remark.diagnostic? = none) : findingsOf (note :: notes) = findingsOf notes := by
  simp [findingsOf, findings, h]

/-- A walk explores the sites that its statements meet.  Its findings are the reports of its own
machine and those of the sites entered. -/
theorem walk_explores (context : Context) (loop : Nat) (keyword : Location) (path : List String)
    (position : Nat) (machine : Machine) (visited : List Nat) (statements : List Statement) :
    ∃ trail, Explores Site.position (Site.inner context) visited
        (sitesOf context path position statements)
        (walk context loop keyword path position machine visited statements).visited trail ∧
      (findingsOf (walk context loop keyword path position machine visited statements).notes).Perm
        (List.replicate (machine.run (roleStream context path statements)).2
            (.keylessLoop keyword) ++
          trail.flatMap (Site.reports context)) := by
  fun_induction walk context loop keyword path position machine visited statements with
  | case1 =>
    refine ⟨[], ?_, ?_⟩
    · rw [sitesOf]; exact .done _
    · simp [Machine.run, findingsOf, findings]
  | case2 loop keyword path position machine visited kind inner body rest next seen =>
    rename_i ih
    obtain ⟨trail, explores, perm⟩ := ih
    refine ⟨trail, ?_, ?_⟩
    · rw [sitesOf]
      exact .pass (by simpa using seen) explores
    · rwa [roleStream_of_not_call (by simp)]
  | case3 loop keyword path position machine visited kind inner body rest next fresh nested after
      ihNested =>
    rename_i ihAfter
    obtain ⟨below, exploresBelow, permBelow⟩ := ihNested
    obtain ⟨trail, explores, perm⟩ := ihAfter
    refine ⟨⟨position, inner, body, path⟩ :: below ++ trail, ?_, ?_⟩
    · rw [sitesOf]
      exact .enter (by simpa using fresh) exploresBelow explores
    · rw [roleStream_of_not_call (by simp), findingsOf_append, findingsOf_cons_silent rfl,
        List.flatMap_append, List.flatMap_cons]
      exact (permBelow.append perm).trans (List.perm_append_comm_assoc _ _ _)
  | case4 loop keyword path position machine visited receiver name arguments symbol location rest
      next helper identity start body entered helped after ihHelped =>
    rename_i ihAfter
    obtain ⟨trail₁, explores₁, perm₁⟩ := ihHelped
    obtain ⟨trail₂, explores₂, perm₂⟩ := ihAfter
    refine ⟨trail₁ ++ trail₂, ?_, ?_⟩
    · rw [sitesOf_of_entered helper entered]
      exact explores₁.append explores₂
    · rw [roleStream_of_inlined helper (Context.inlined?_of_entered entered), Machine.run_append,
        findingsOf_append, List.flatMap_append, ← List.replicate_append_replicate, ← walk_machine]
      refine (perm₁.append perm₂).trans ?_
      simp only [List.append_assoc]
      exact (List.perm_append_comm_assoc _ _ _).append_left _
  | case5 loop keyword path position machine visited receiver name arguments symbol location rest
      next helper refusal refused after =>
    rename_i ih
    obtain ⟨trail, explores, perm⟩ := ih
    refine ⟨trail, ?_, ?_⟩
    · rwa [sitesOf_of_refused helper refused]
    · rwa [roleStream_of_not_inlined helper (Context.inlined?_of_refused refused),
        findingsOf_cons_silent rfl]
  | case6 loop keyword path position machine visited receiver name arguments symbol location rest
      next plain after reports =>
    rename_i ih
    obtain ⟨trail, explores, perm⟩ := ih
    refine ⟨trail, ?_, ?_⟩
    · rwa [sitesOf_of_role plain]
    · rw [run_roleStream_of_role machine plain, Machine.run_cons, if_pos reports,
        List.replicate_succ, List.cons_append]
      exact perm.cons _
  | case7 loop keyword path position machine visited receiver name arguments symbol location rest
      next plain after silent =>
    rename_i ih
    obtain ⟨trail, explores, perm⟩ := ih
    refine ⟨trail, ?_, ?_⟩
    · rwa [sitesOf_of_role plain]
    · rwa [run_roleStream_of_role machine plain, Machine.run_cons, if_neg silent]
  | case8 loop keyword path position machine visited statement rest notLoop notCall =>
    rename_i ih
    obtain ⟨trail, explores, perm⟩ := ih
    refine ⟨trail, ?_, ?_⟩
    · rw [sitesOf]
      · exact explores
      · exact notLoop
      · exact notCall
    · rwa [roleStream_of_not_call notCall]

/-! ## 3. A run explores -/

/-- The loops with a block for a body that stand directly among statements, reached on no path. -/
def loopsAmong (position : Nat) : List Statement → List Site
  | [] => []
  | .loop kind keyword (.block body) :: rest =>
    ⟨position, keyword, body, []⟩ ::
      loopsAmong (position + (Statement.loop kind keyword (.block body)).count) rest
  | statement :: rest => loopsAmong (position + statement.count) rest

/-- The loops directly inside render routines, on the empty path. -/
def outerSites (routines : List RenderRoutine) : List Site :=
  routines.flatMap fun routine => loopsAmong routine.position routine.statements

theorem analyzeStatements_explores (context : Context) (visited : List Nat) (position : Nat)
    (statements : List Statement) :
    ∃ trail, Explores Site.position (Site.inner context) visited (loopsAmong position statements)
        (analyzeStatements context visited position statements).1 trail ∧
      (findings (analyzeStatements context visited position statements).2).Perm
        (trail.flatMap (Site.reports context)) := by
  induction statements generalizing visited position with
  | nil => exact ⟨[], .done _, .refl _⟩
  | cons statement rest ih =>
    match statement with
    | .loop kind keyword (.block body) =>
      by_cases seen : position ∈ visited
      · obtain ⟨trail, explores, perm⟩ := ih visited
          (position + (Statement.loop kind keyword (.block body)).count)
        refine ⟨trail, .pass seen ?_, ?_⟩
        · simpa [analyzeStatements, analyzeLoop, blockBody?, seen] using explores
        · simpa [analyzeStatements, analyzeLoop, blockBody?, seen] using perm
      · let progress := walkLoop context [] visited position keyword body
        have analyzed : analyzeLoop context [] visited position kind keyword (.block body) =
            (progress.visited, loopRemark kind keyword :: progress.notes.map (·.remark)) := by
          simp [analyzeLoop, blockBody?, seen, progress]
        obtain ⟨below, exploresBelow, permBelow⟩ := walk_explores context position
          keyword [] (position + 2) {} (position :: visited) body
        obtain ⟨trail, explores, perm⟩ := ih progress.visited
          (position + (Statement.loop kind keyword (.block body)).count)
        refine ⟨⟨position, keyword, body, []⟩ :: below ++ trail, ?_, ?_⟩
        · simp only [analyzeStatements, analyzed]
          exact .enter seen exploresBelow explores
        · simp only [analyzeStatements, analyzed, findings_append, List.flatMap_append,
            List.flatMap_cons]
          exact permBelow.append perm
    | .loop kind keyword (.loop ..) | .loop kind keyword (.expression _)
    | .loop kind keyword (.other ..) | .block _ | .expression _ | .other .. =>
      exact ih _ _

theorem analyzeRoutines_explores (context : Context) (visited : List Nat)
    (routines : List RenderRoutine) :
    ∃ trail, Explores Site.position (Site.inner context) visited (outerSites routines)
        (analyzeRoutines context visited routines).1 trail ∧
      (findings (analyzeRoutines context visited routines).2).Perm
        (trail.flatMap (Site.reports context)) := by
  induction routines generalizing visited with
  | nil => exact ⟨[], .done _, .refl _⟩
  | cons routine rest ih =>
    obtain ⟨trail₁, explores₁, perm₁⟩ := analyzeStatements_explores context visited
      routine.position routine.statements
    obtain ⟨trail₂, explores₂, perm₂⟩ := ih (analyzeRoutine context visited routine).1
    refine ⟨trail₁ ++ trail₂, explores₁.append explores₂, ?_⟩
    simp only [analyzeRoutines, findings_append, List.flatMap_append]
    exact perm₁.append perm₂

/-- All that the analysis finds are loops without a key. -/
theorem keyless_of_mem_findings {routines : List RenderRoutine} {diagnostic : Diagnostic}
    (h : diagnostic ∈ findings (analyze context routines).2) :
    ∃ keyword, diagnostic = .keylessLoop keyword := by
  obtain ⟨trail, -, perm⟩ := analyzeRoutines_explores context [] routines
  obtain ⟨site, -, reported⟩ := List.mem_flatMap.mp (perm.mem_iff.mp h)
  exact ⟨site.keyword, List.eq_of_mem_replicate reported⟩

/-! ## 4. Sites and the loops of a snapshot -/

section Placed

variable {snapshot : Snapshot} {settings : Settings}

/-- What stands at the position of the site is its loop. -/
def Site.IsLoopOf (snapshot : Snapshot) (site : Site) : Prop :=
  ∃ kind, snapshot.nodes[site.position]? =
    some (.statement (.loop kind site.keyword (.block site.body)))

/-- The loop of a site is told by its position. -/
theorem Site.IsLoopOf.unique {a b : Site} (ha : a.IsLoopOf snapshot) (hb : b.IsLoopOf snapshot)
    (same : a.position = b.position) : a.keyword = b.keyword ∧ a.body = b.body := by
  obtain ⟨kind, ha⟩ := ha
  obtain ⟨kind', hb⟩ := hb
  rw [same, hb] at ha
  simp only [Option.some.injEq, Node.statement.injEq, Statement.loop.injEq,
    Statement.block.injEq] at ha
  exact ⟨ha.2.1.symm, ha.2.2.symm⟩

/-- The body of a loop stands two positions after the loop. -/
theorem Site.IsLoopOf.standsAt_body {site : Site} (h : site.IsLoopOf snapshot) :
    StandsAt snapshot.nodes (site.position + 2) (Statement.nodesOf site.body) := by
  obtain ⟨kind, h⟩ := h
  have stands := Snapshot.isForest_nodes snapshot _ _ h
  simp only [Node.nodes, Statement.nodes] at stands
  exact stands.tail.tail

/-- What stands first among statements is their first statement, and the rest stands after it. -/
theorem standsAt_cons {nodes : List Node} {position : Nat} {statement : Statement}
    {rest : List Statement}
    (h : StandsAt nodes position (Statement.nodesOf (statement :: rest))) :
    StandsAt nodes position statement.nodes ∧
      StandsAt nodes (position + statement.count) (Statement.nodesOf rest) := by
  rw [← Statement.length_nodes]
  exact ⟨StandsAt.left h, StandsAt.right h⟩

theorem isLoopOf_head {position : Nat} {kind : LoopKind} {keyword : Location}
    {body : List Statement} (path : List String)
    (h : StandsAt snapshot.nodes position (Statement.loop kind keyword (.block body)).nodes) :
    Site.IsLoopOf snapshot ⟨position, keyword, body, path⟩ :=
  ⟨kind, StandsAt.getElem? h⟩

/-- The sites that statements meet are loops of the snapshot where the statements stand in it. -/
theorem isLoopOf_of_mem_sitesOf (compiled : context.compilation = .ofSnapshot snapshot)
    (path : List String) (position : Nat) (statements : List Statement)
    (stands : StandsAt snapshot.nodes position (Statement.nodesOf statements)) :
    ∀ site ∈ sitesOf context path position statements, site.IsLoopOf snapshot := by
  fun_induction sitesOf context path position statements with
  | case1 => simp
  | case2 path position kind keyword body rest ih =>
    have ⟨here, after⟩ := standsAt_cons stands
    intro site hs
    rcases List.mem_cons.mp hs with rfl | hs
    · exact isLoopOf_head path here
    · exact ih after site hs
  | case3 path position receiver name arguments symbol location rest next helper identity start
      body entered ihBody =>
    rename_i ihRest
    obtain ⟨method, callee, declared, rfl, rfl, -⟩ := Context.method_of_entered entered
    rw [compiled] at callee
    intro site hs
    rcases List.mem_append.mp hs with hs | hs
    · exact ihBody (StandsAt.body_of_callee callee declared) site hs
    · exact ihRest (standsAt_cons stands).2 site hs
  | case4 => rename_i ih; exact ih (standsAt_cons stands).2
  | case5 => rename_i ih; exact ih (standsAt_cons stands).2
  | case6 => rename_i ih; exact ih (standsAt_cons stands).2

theorem isLoopOf_of_mem_loopsAmong (position : Nat) (statements : List Statement)
    (stands : StandsAt snapshot.nodes position (Statement.nodesOf statements)) :
    ∀ site ∈ loopsAmong position statements, site.IsLoopOf snapshot := by
  fun_induction loopsAmong position statements with
  | case1 => simp
  | case2 position kind keyword body rest ih =>
    have ⟨here, after⟩ := standsAt_cons stands
    intro site hs
    rcases List.mem_cons.mp hs with rfl | hs
    · exact isLoopOf_head [] here
    · exact ih after site hs
  | case3 => rename_i ih; exact ih (standsAt_cons stands).2

theorem path_of_mem_loopsAmong (position : Nat) (statements : List Statement) :
    ∀ site ∈ loopsAmong position statements, site.path = [] := by
  fun_induction loopsAmong position statements with
  | case1 => simp
  | case2 position kind keyword body rest ih =>
    intro site hs
    rcases List.mem_cons.mp hs with rfl | hs
    · rfl
    · exact ih site hs
  | case3 => assumption

/-- The statements of a collected render routine stand where the routine says. -/
theorem standsAt_of_mem_routines {routine : RenderRoutine}
    (h : routine ∈ (Candidates.collect settings (.ofSnapshot snapshot)).routines) :
    StandsAt snapshot.nodes routine.position (Statement.nodesOf routine.statements) := by
  obtain ⟨⟨node, position⟩, placed, selected⟩ := List.mem_filterMap.mp h
  have stands := Snapshot.isForest_nodes snapshot _ _ (List.mem_zipIdx_iff_getElem?.mp placed)
  unfold RenderRoutine.ofNode? at selected
  split at selected
  · rename_i name symbol parameters statements location position' same
    cases same
    split at selected
    · cases selected
      simp only [Node.nodes, Snapshot.Member.nodes, Statement.nodesOfBody] at stands
      exact stands.tail.tail
    · cases selected
  · rename_i parameter statements expressionBody location position' same
    cases same
    split at selected
    · cases selected
      simp only [Node.nodes, Expression.nodes, Statement.nodesOfBody, List.cons_append] at stands
      exact (stands.tail.tail).left
    · cases selected
  · cases selected

/-- Every site that the collected routines lead to is a loop of the snapshot. -/
theorem Site.isLoopOf_of_reached {site : Site}
    (compiled : context.compilation = .ofSnapshot snapshot)
    (reached : Reached (Site.inner context)
      (outerSites (Candidates.collect settings (.ofSnapshot snapshot)).routines) site) :
    site.IsLoopOf snapshot := by
  induction reached with
  | root h =>
    obtain ⟨routine, collected, hs⟩ := List.mem_flatMap.mp h
    exact isLoopOf_of_mem_loopsAmong _ _ (standsAt_of_mem_routines collected) _ hs
  | inner _ h ih => exact isLoopOf_of_mem_sitesOf compiled _ _ _ ih.standsAt_body _ h

end Placed

/-! ## 5. The order of the routines -/

/-- Any two sites of one loop that the routines lead to agree: the loop is reported as often at
either, and either leads to the same loops. -/
def PathsAgree (context : Context) (routines : List RenderRoutine) : Prop :=
  ∀ a b, Reached (Site.inner context) (outerSites routines) a →
    Reached (Site.inner context) (outerSites routines) b → a.position = b.position →
      a.verdict context = b.verdict context ∧
        ∀ c ∈ a.inner context, ∃ d ∈ b.inner context, d.position = c.position

theorem mem_outerSites_congr {routines routines' : List RenderRoutine}
    (perm : routines.Perm routines') (site : Site) :
    site ∈ outerSites routines ↔ site ∈ outerSites routines' := by
  simp only [outerSites, List.mem_flatMap, perm.mem_iff]

/-- Whether sites of one loop agree, for the sites of a list. -/
def agreeAmong (context : Context) (sites : List Site) : Bool :=
  sites.all fun a => sites.all fun b =>
    a.position ≠ b.position ||
      (a.verdict context = b.verdict context &&
        (a.inner context).all fun c => (b.inner context).any fun d => d.position = c.position)

/-- To see that the paths agree it is enough to look at sites that hold the outer ones and all that
they lead to. -/
theorem pathsAgree_of_agreeAmong {routines : List RenderRoutine} (sites : List Site)
    (holdsOuter : ∀ site ∈ outerSites routines, site ∈ sites)
    (closed : ∀ a ∈ sites, ∀ b ∈ a.inner context, b ∈ sites)
    (agree : agreeAmong context sites = true) : PathsAgree context routines := by
  intro a b ha hb same
  have agree := List.all_eq_true.mp agree a (ha.mem_of_closed holdsOuter closed)
  have agree := List.all_eq_true.mp agree b (hb.mem_of_closed holdsOuter closed)
  simp only [same, ne_eq, not_true_eq_false, decide_false, Bool.false_or, Bool.and_eq_true,
    decide_eq_true_eq, List.all_eq_true, List.any_eq_true] at agree
  exact agree

namespace Example

/-- The render routines of a compilation. -/
def routinesOf (context : Context) : List RenderRoutine :=
  (Candidates.collect context.settings context.compilation).routines

/-- A render routine that calls itself in a loop. -/
def treeBody : List Statement :=
  [loop 1 [helperCall "Tree"], call "OpenElement", call "CloseElement"]

/-- A render routine that calls the other one in a loop. -/
def pageBody : List Statement :=
  [loop 2 [helperCall "Tree"]]

/-- The two routines, the first of which is a helper of both. -/
def treeFile : Snapshot :=
  fileOf [method "BuildRenderTree" "Tree" treeBody, method "BuildRenderTree" "Page" pageBody]

/-- The compilation of the two routines. -/
def tree : Context := ⟨{}, .ofSnapshot treeFile⟩

theorem tree_eq : tree = ⟨{}, treeFile, [], [
    ("Tree", ⟨0, "BuildRenderTree", some "Tree", some treeBody⟩),
    ("Page", ⟨11, "BuildRenderTree", some "Page", some pageBody⟩)]⟩ := rfl

theorem routinesOf_tree :
    routinesOf tree = [⟨"Tree", {}, treeBody, 2⟩, ⟨"Page", {}, pageBody, 13⟩] := rfl

end Example

/-- The order of the render routines shows.  In `tree`, the loop on line 1 stands directly inside
the routine `Tree`.  Analysed first, `Tree` judges it on the empty path, where the call to `Tree`
inside it is followed, and it is reported.  Analysed after `Page`, which reaches it through a call
to `Tree`, it has been judged on a path that holds `Tree`: the call is not followed, and the loop
is not reported. -/
theorem analyze_order_shows :
    let collected := Example.routinesOf Example.tree
    collected.reverse.Perm collected ∧
      findings (analyze Example.tree collected).2 =
        [.keylessLoop { line := 1 }, .keylessLoop { line := 2 }] ∧
      findings (analyze Example.tree collected.reverse).2 = [.keylessLoop { line := 2 }] ∧
      ¬ (findings (analyze Example.tree collected.reverse).2).Perm
        (findings (analyze Example.tree collected).2) := by
  intro collected
  have first : findings (analyze Example.tree collected).2 =
      [.keylessLoop { line := 1 }, .keylessLoop { line := 2 }] := by
    simp only [collected, Example.routinesOf_tree]
    rw [Example.tree_eq]
    cbv
  have second : findings (analyze Example.tree collected.reverse).2 =
      [.keylessLoop { line := 2 }] := by
    simp only [collected, Example.routinesOf_tree]
    rw [Example.tree_eq]
    cbv
  refine ⟨List.reverse_perm _, first, second, ?_⟩
  intro perm
  have := perm.length_eq
  rw [first, second] at this
  exact absurd this (by decide)

/-- Where the paths to each loop agree, the order of the render routines does not show in the
findings: they are those of the loops that the routines lead to, each judged once and as at any of
its sites.  A loop directly inside a render routine is then judged as on the empty path, whatever
path it is first reached on. -/
theorem analyze_order_hidden (settings : Settings) (snapshot : Snapshot)
    (agree : PathsAgree ⟨settings, .ofSnapshot snapshot⟩
      (Candidates.collect settings (.ofSnapshot snapshot)).routines) :
    let context : Context := ⟨settings, .ofSnapshot snapshot⟩
    let collected := (Candidates.collect settings (.ofSnapshot snapshot)).routines
    (∀ routines, routines.Perm collected →
      (findings (analyze context routines).2).Perm (findings (analyze context collected).2)) ∧
    ∃ (loops : List Nat) (judged : Nat → List Diagnostic),
      loops.Nodup ∧
      (∀ position, position ∈ loops ↔
        ∃ site, Reached (Site.inner context) (outerSites collected) site ∧
          site.position = position) ∧
      (∀ site, Reached (Site.inner context) (outerSites collected) site →
        judged site.position = site.reports context) ∧
      (∀ site ∈ outerSites collected,
        site.path = [] ∧ judged site.position = site.reports context) ∧
      (findings (analyze context collected).2).Perm (loops.flatMap judged) := by
  intro context collected
  have alike : Explores.Alike Site.position (Site.inner context) (outerSites collected) :=
    fun a b ha hb same => (agree a b ha hb same).2
  have sameReports : ∀ a b, Reached (Site.inner context) (outerSites collected) a →
      Reached (Site.inner context) (outerSites collected) b → a.position = b.position →
        a.reports context = b.reports context := by
    intro a b ha hb same
    have keyword := ((Site.isLoopOf_of_reached rfl ha).unique
      (Site.isLoopOf_of_reached rfl hb) same).1
    rw [Site.reports, Site.reports, (agree a b ha hb same).1, keyword]
  obtain ⟨judged, judged_eq⟩ := exists_given [] sameReports
  obtain ⟨trail, explores, perm⟩ := analyzeRoutines_explores context [] collected
  refine ⟨?_, trail.map Site.position, judged, explores.nodup_keys,
    explores.mem_keys_iff alike, fun site reached => (judged_eq site reached).symm, ?_, ?_⟩
  · intro routines permuted
    obtain ⟨trail₂, explores₂, perm₂⟩ := analyzeRoutines_explores context [] routines
    have roots := mem_outerSites_congr permuted.symm
    have reached : ∀ site, Reached (Site.inner context) (outerSites routines) site →
        Reached (Site.inner context) (outerSites collected) site :=
      fun site r => r.mono fun s hs => (roots s).mpr hs
    have keys := explores.keys_perm explores₂ alike roots
    calc findings (analyze context routines).2
        _ ~ trail₂.flatMap (Site.reports context) := perm₂
        _ = (trail₂.map Site.position).flatMap judged :=
          explores₂.flatMap_trail_eq fun site r => judged_eq site (reached site r)
        _ ~ (trail.map Site.position).flatMap judged := keys.symm.flatMap_right judged
        _ = trail.flatMap (Site.reports context) := (explores.flatMap_trail_eq judged_eq).symm
        _ ~ findings (analyze context collected).2 := perm.symm
  · intro site hs
    obtain ⟨routine, -, inside⟩ := List.mem_flatMap.mp hs
    exact ⟨path_of_mem_loopsAmong _ _ site inside, (judged_eq site (.root hs)).symm⟩
  · rw [← explores.flatMap_trail_eq judged_eq]
    exact perm

namespace Example

/-- A render routine that reaches the loop of `Rows` directly, one that reaches it through another
helper, and the two helpers. -/
def sharedFile : Snapshot :=
  fileOf [
    method "BuildRenderTree" "Page" [loop 1 [helperCall "Rows"]],
    method "BuildRenderTree" "List" [loop 2 [helperCall "Outer"]],
    method "Outer" "Outer" [helperCall "Rows"],
    method "Rows" "Rows" [loop 3 [call "OpenElement", call "CloseElement"]]]

/-- The compilation of the two routines and their helpers. -/
def shared : Context := ⟨{}, .ofSnapshot sharedFile⟩

/-- The outer sites of `shared`. -/
def sharedOuter : List Site :=
  [⟨2, { line := 1 }, [helperCall "Rows"], []⟩, ⟨9, { line := 2 }, [helperCall "Outer"], []⟩]

/-- The sites of the loop of `Rows`. -/
def sharedInner : List Site :=
  let body := [call "OpenElement", call "CloseElement"]
  [⟨21, { line := 3 }, body, ["Rows"]⟩, ⟨21, { line := 3 }, body, ["Rows", "Outer"]⟩]

theorem outerSites_shared : outerSites (routinesOf shared) = sharedOuter := rfl

theorem inner_sharedOuter : sharedOuter.flatMap (Site.inner shared) = sharedInner := by cbv

theorem inner_sharedInner : sharedInner.flatMap (Site.inner shared) = [] := by cbv

/-- The two paths to the loop of `Rows` agree. -/
theorem pathsAgree_shared : PathsAgree shared (routinesOf shared) := by
  refine pathsAgree_of_agreeAmong (sharedOuter ++ sharedInner) ?_ ?_ ?_
  · intro site hs
    rw [outerSites_shared] at hs
    exact List.mem_append_left _ hs
  · intro a ha b hb
    refine List.mem_append_right _ ?_
    rcases List.mem_append.mp ha with ha | ha
    · rw [← inner_sharedOuter]
      exact List.mem_flatMap.mpr ⟨a, ha, hb⟩
    · have := List.mem_flatMap.mpr ⟨a, ha, hb⟩
      rw [inner_sharedInner] at this
      exact absurd this List.not_mem_nil
  · cbv

end Example

/-- In `shared` two paths lead to the loop of one helper, and the order does not show. -/
theorem analyze_order_hidden_shared :
    let collected := Example.routinesOf Example.shared
    PathsAgree Example.shared collected ∧
      (findings (analyze Example.shared collected.reverse).2).Perm
        (findings (analyze Example.shared collected).2) :=
  ⟨Example.pathsAgree_shared,
    (analyze_order_hidden {} _ Example.pathsAgree_shared).1 _ (List.reverse_perm _)⟩

end ComponentPasses.LoopKeys

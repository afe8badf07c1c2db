import ComponentPasses.Candidates
import ComponentPasses.LoopKeys.Machine
import ComponentPasses.Record

/-!
# Loop analysis

The second pass looks at the loops directly inside each render routine.  It walks the body of a loop
with a fresh machine:

* a statement that is a single call steps the machine by its role;
* a helper call is followed into the body of the method it goes to, with the same machine, as if the
  body stood in its place;
* a loop inside gets a walk and a machine of its own;
* any other statement is passed over.

**Path.**  A walk carries the helpers that were followed to reach it, innermost first.  A helper on
the path is not entered again, and none is entered once the path is as long as the settings allow.

**Once.**  Each loop is walked once in a run, however many ways lead to it.  Loops are told apart by
position, so the walk keeps the position of the statement it is at.

**Ending.**  A walk calls itself for the rest of the statements and for the body of a loop, which
are smaller, and for the body of a helper, where the path grows towards its limit.  How deep an
interpreter can recurse is outside the model: a walk here has room for any depth.
-/

namespace ComponentPasses.LoopKeys

open Snapshot (Compilation Location LoopKind Statement Expression)

/-- What all walks need to know: the settings and the compilation. -/
structure Context where
  settings : Settings
  compilation : Compilation

/-- A remark, and the position of the loop in whose walk it is made. -/
structure Note where
  loop : Nat
  remark : Remark
deriving DecidableEq, Repr

/-- What a walk leaves behind: the machine, the positions of the loops walked so far in the run, and
its notes in order. -/
structure Progress where
  machine : Machine
  visited : List Nat
  notes : List Note

/-- Why a helper call is not followed. -/
inductive Refusal
  | unresolved
  | recursive
  | tooDeep
deriving DecidableEq, Repr

/-- The refusal in words. -/
def Refusal.outcome : Refusal → String
  | .unresolved => "unresolved helper"
  | .recursive => "recursive helper not re-entered"
  | .tooDeep => "helper depth limit reached"

/-- How a helper call turns out. -/
inductive HelperCall
  | refused (refusal : Refusal)
  | entered (identity : String) (position : Nat) (body : List Statement)

/-- How a helper call to the symbol turns out on a path. -/
def Context.helperCall (context : Context) (path : List String) (symbol : Option String) :
    HelperCall :=
  match context.compilation.callee? symbol with
  | none => .refused .unresolved
  | some method =>
    match method.body with
    | none => .refused .unresolved
    | some body =>
      if path.contains method.identity then .refused .recursive
      else if path.length < context.settings.maxInlineDepth then
        .entered method.identity (method.position + 2) body
      else .refused .tooDeep

/-- A helper is entered only on a path that is not yet at its limit. -/
theorem Context.length_lt_of_entered {context : Context} {path : List String}
    {symbol : Option String} {identity : String} {position : Nat} {body : List Statement}
    (h : context.helperCall path symbol = .entered identity position body) :
    path.length < context.settings.maxInlineDepth := by
  unfold Context.helperCall at h
  split at h
  · cases h
  · split at h
    · cases h
    · split at h
      · cases h
      · split at h
        · assumption
        · cases h

/-- The remark about a loop whose walk begins. -/
def loopRemark (kind : LoopKind) (keyword : Location) : Remark :=
  .inspected (kind.keyword ++ " at " ++ keyword.text) "analysing loop body" ""

/-- The remark that a helper call is not followed. -/
def helperRemark (name : String) (refusal : Refusal) : Remark :=
  .inspected name refusal.outcome ""

/-- The statements of a loop's body if it is a block, and otherwise nothing. -/
def blockBody? : Statement → Option (List Statement)
  | .block statements => some statements
  | _ => none

/-- Walks statements, the first of which stands at `position`, for the loop at the position `loop`
with the keyword.  Loops inside loops and helpers inside helpers are walked to any depth: the limit
that an interpreter sets to recursion is outside the model. -/
def walk (context : Context) (loop : Nat) (keyword : Location) (path : List String)
    (position : Nat) (machine : Machine) (visited : List Nat) : List Statement → Progress
  | [] => ⟨machine, visited, []⟩
  | .loop kind inner (.block body) :: rest =>
    let next := position + (Statement.loop kind inner (.block body)).count
    if visited.contains position then
      walk context loop keyword path next machine visited rest
    else
      let nested :=
        walk context position inner path (position + 2) {} (position :: visited) body
      let after := walk context loop keyword path next machine nested.visited rest
      { after with notes := ⟨position, loopRemark kind inner⟩ :: nested.notes ++ after.notes }
  | .expression (.invocation receiver name arguments symbol location) :: rest =>
    let next :=
      position + (Statement.expression (.invocation receiver name arguments symbol location)).count
    match roleOf context.settings receiver name arguments with
    | .helper =>
      match _entered : context.helperCall path symbol with
      | .entered identity start body =>
        let helped := walk context loop keyword (identity :: path) start machine visited body
        let after := walk context loop keyword path next helped.machine helped.visited rest
        { after with notes := helped.notes ++ after.notes }
      | .refused refusal =>
        let after := walk context loop keyword path next machine visited rest
        { after with notes := ⟨loop, helperRemark name refusal⟩ :: after.notes }
    | role =>
      let after := walk context loop keyword path next (machine.step role) visited rest
      if machine.reports role then
        { after with notes := ⟨loop, .reported (.keylessLoop keyword)⟩ :: after.notes }
      else after
  | statement :: rest =>
    walk context loop keyword path (position + statement.count) machine visited rest
termination_by statements => (context.settings.maxInlineDepth - path.length, sizeOf statements)
decreasing_by
  all_goals first
    | (apply Prod.Lex.left
       have := Context.length_lt_of_entered _entered
       simp only [List.length_cons]; omega)
    | (apply Prod.Lex.right
       simp only [List.cons.sizeOf_spec, Statement.loop.sizeOf_spec, Statement.block.sizeOf_spec]
       omega)

/-- The walk of a loop with a block for a body: the machine is fresh, and the loop counts as walked
from the start. -/
def walkLoop (context : Context) (path : List String) (visited : List Nat) (position : Nat)
    (keyword : Location) (statements : List Statement) : Progress :=
  walk context position keyword path (position + 2) {} (position :: visited) statements

/-- Walks one loop, unless it has no block for a body or was walked before: the loops walked so
far, and the remarks.  As in `walk`, no recursion limit ends it. -/
def analyzeLoop (context : Context) (path : List String) (visited : List Nat) (position : Nat)
    (kind : LoopKind) (keyword : Location) (body : Statement) : List Nat × List Remark :=
  match blockBody? body with
  | none => (visited, [])
  | some statements =>
    if visited.contains position then (visited, [])
    else
      let progress := walkLoop context path visited position keyword statements
      (progress.visited, loopRemark kind keyword :: progress.notes.map (·.remark))

/-- Walks the loops among statements, the first of which stands at `position`. -/
def analyzeStatements (context : Context) (visited : List Nat) (position : Nat) :
    List Statement → List Nat × List Remark
  | [] => (visited, [])
  | statement :: rest =>
    let (visited, remarks) :=
      match statement with
      | .loop kind keyword body => analyzeLoop context [] visited position kind keyword body
      | _ => (visited, [])
    let (visited, others) := analyzeStatements context visited (position + statement.count) rest
    (visited, remarks ++ others)

/-- Walks the loops directly inside a render routine. -/
def analyzeRoutine (context : Context) (visited : List Nat) (routine : RenderRoutine) :
    List Nat × List Remark :=
  analyzeStatements context visited routine.position routine.statements

/-- Walks the loops directly inside render routines, each loop once. -/
def analyzeRoutines (context : Context) (visited : List Nat) :
    List RenderRoutine → List Nat × List Remark
  | [] => (visited, [])
  | routine :: rest =>
    let (visited, remarks) := analyzeRoutine context visited routine
    let (visited, others) := analyzeRoutines context visited rest
    (visited, remarks ++ others)

/-- Analyses render routines as one run, which starts with no loop walked. -/
def analyze (context : Context) (routines : List RenderRoutine) : List Nat × List Remark :=
  analyzeRoutines context [] routines

end ComponentPasses.LoopKeys

import ComponentPasses.LoopKeys.Analysis
import ComponentPasses.Proofs.Record
import Mathlib.Data.List.Basic

/-!
# A loop's walk is a fold

The walk of a loop does three things at once: it steps the machine of the loop, it walks the loops
that it meets with machines of their own, and it keeps the list of the loops walked in the run.
This module takes the first out of the rest.  The **role stream** of statements lists the calls that
step the machine, with the body of a helper in the place of its call, and

* the machine that a walk leaves is the machine run over the stream (`walk_machine`);
* the reports of the walk's own loop are those of that run (`reportsOf_walk`).

Neither mentions which loops were walked before, so nothing that happens inside another loop can
change them.  What keeps the loops apart is that a loop counts as walked before its walk begins: no
walk inside it makes a note in its name (`loop_of_mem_notes`).
-/

namespace ComponentPasses.LoopKeys

open Snapshot (Compilation Location LoopKind Statement Expression)

variable {context : Context}

/-! ## 1. The stream -/

/-- What a helper call on a path is replaced by: the identity and the body of its method.  The
method must be declared with a body, must not be on the path, and the path must be shorter than the
settings allow. -/
def Context.inlined? (context : Context) (path : List String) (symbol : Option String) :
    Option (String × List Statement) :=
  (context.compilation.callee? symbol).bind fun method =>
    method.body.bind fun body =>
      if method.identity ∉ path ∧ path.length < context.settings.maxInlineDepth then
        some (method.identity, body)
      else none

/-- A helper call is replaced only on a path that is not yet at its limit. -/
theorem Context.length_lt_of_inlined {path : List String} {symbol : Option String}
    {identity : String} {body : List Statement}
    (h : context.inlined? path symbol = some (identity, body)) :
    path.length < context.settings.maxInlineDepth := by
  simp only [inlined?, Option.bind_eq_some_iff] at h
  obtain ⟨method, -, body', -, h⟩ := h
  split at h
  · rename_i entered
    exact entered.2
  · cases h

/-- The roles of the calls that step the machine of the loop around the statements, on a path.
Only a statement that is a single call contributes any. -/
def roleStream (context : Context) (path : List String) : List Statement → List Role
  | [] => []
  | .expression (.invocation receiver name arguments symbol _) :: rest =>
    match roleOf context.settings receiver name arguments with
    | .helper =>
      match _inlined : context.inlined? path symbol with
      | some (identity, body) =>
        roleStream context (identity :: path) body ++ roleStream context path rest
      | none => roleStream context path rest
    | .other => roleStream context path rest
    | role => role :: roleStream context path rest
  | _ :: rest => roleStream context path rest
termination_by statements => (context.settings.maxInlineDepth - path.length, sizeOf statements)
decreasing_by
  all_goals first
    | (apply Prod.Lex.left
       have := Context.length_lt_of_inlined _inlined
       simp only [List.length_cons]; omega)
    | (apply Prod.Lex.right
       simp only [List.cons.sizeOf_spec]
       omega)

/-- All that must hold for a call to be followed. -/
theorem Context.method_of_entered {path : List String} {symbol : Option String}
    {identity : String} {position : Nat} {body : List Statement}
    (h : context.helperCall path symbol = .entered identity position body) :
    ∃ method, context.compilation.callee? symbol = some method ∧ method.body = some body ∧
      method.identity = identity ∧ method.position + 2 = position ∧ identity ∉ path ∧
        path.length < context.settings.maxInlineDepth := by
  have short := Context.length_lt_of_entered h
  unfold helperCall at h
  cases callee : context.compilation.callee? symbol with
  | none => simp [callee] at h
  | some method =>
    cases declared : method.body with
    | none => simp [callee, declared] at h
    | some statements =>
      simp only [callee, declared, List.contains_eq_mem, decide_eq_true_eq] at h
      split at h
      · cases h
      · rename_i onPath
        cases h
        exact ⟨method, rfl, declared, rfl, rfl, onPath, short⟩

/-- A call that is followed is replaced by the body that the walk goes into. -/
theorem Context.inlined?_of_entered {path : List String} {symbol : Option String}
    {identity : String} {position : Nat} {body : List Statement}
    (h : context.helperCall path symbol = .entered identity position body) :
    context.inlined? path symbol = some (identity, body) := by
  obtain ⟨method, callee, declared, rfl, -, onPath, short⟩ := method_of_entered h
  simp [inlined?, callee, declared, onPath, short]

/-- A call that is not followed is not replaced. -/
theorem Context.inlined?_of_refused {path : List String} {symbol : Option String}
    {refusal : Refusal} (h : context.helperCall path symbol = .refused refusal) :
    context.inlined? path symbol = none := by
  unfold helperCall at h
  unfold inlined?
  cases callee : context.compilation.callee? symbol with
  | none => rfl
  | some method =>
    cases declared : method.body with
    | none => simp [declared]
    | some statements =>
      simp only [callee, declared, List.contains_eq_mem, decide_eq_true_eq] at h
      split at h
      · rename_i onPath
        simp [declared, onPath]
      · split at h
        · cases h
        · rename_i deep
          simp [deep]

/-! ## 2. Steps of the stream -/

section Steps

variable {path : List String} {receiver : Option String} {name : String}
  {arguments : List Expression} {symbol : Option String} {location : Location}
  {rest : List Statement}

@[simp] theorem roleStream_nil : roleStream context path [] = [] := by
  rw [roleStream]

theorem roleStream_of_inlined {identity : String} {body : List Statement}
    (helper : roleOf context.settings receiver name arguments = .helper)
    (inlined : context.inlined? path symbol = some (identity, body)) :
    roleStream context path
        (.expression (.invocation receiver name arguments symbol location) :: rest) =
      roleStream context (identity :: path) body ++ roleStream context path rest := by
  rw [roleStream, helper]
  simp only
  split
  · rename_i found
    rw [inlined] at found
    cases found
    rfl
  · rename_i none
    rw [inlined] at none
    cases none

theorem roleStream_of_not_inlined
    (helper : roleOf context.settings receiver name arguments = .helper)
    (kept : context.inlined? path symbol = none) :
    roleStream context path
        (.expression (.invocation receiver name arguments symbol location) :: rest) =
      roleStream context path rest := by
  rw [roleStream, helper]
  simp only
  split
  · rename_i found
    rw [kept] at found
    cases found
  · rfl

/-- A call that is no helper call steps the machine by its role. -/
theorem run_roleStream_of_role (machine : Machine)
    (plain : roleOf context.settings receiver name arguments ≠ .helper) :
    machine.run (roleStream context path
        (.expression (.invocation receiver name arguments symbol location) :: rest)) =
      machine.run (roleOf context.settings receiver name arguments ::
        roleStream context path rest) := by
  rw [roleStream]
  cases role : roleOf context.settings receiver name arguments with
  | helper => exact absurd role plain
  | other => simp [Machine.run, Machine.step, Machine.reports]
  | opening => rfl
  | closing => rfl
  | keying => rfl

theorem roleStream_of_not_call {statement : Statement}
    (silent : ∀ receiver name arguments symbol location,
      statement = .expression (.invocation receiver name arguments symbol location) → False) :
    roleStream context path (statement :: rest) = roleStream context path rest := by
  rw [roleStream]
  exact silent

end Steps

/-! ## 3. Runs of the machine -/

namespace Machine

theorem run_cons (machine : Machine) (role : Role) (rest : List Role) :
    machine.run (role :: rest) =
      (((machine.step role).run rest).1,
        if machine.reports role then ((machine.step role).run rest).2 + 1
        else ((machine.step role).run rest).2) := rfl

/-- A run over two sequences runs over the first and goes on from there over the second. -/
theorem run_append (machine : Machine) (front back : List Role) :
    machine.run (front ++ back) =
      (((machine.run front).1.run back).1,
        (machine.run front).2 + ((machine.run front).1.run back).2) := by
  induction front generalizing machine with
  | nil => simp [run]
  | cons role front ih =>
    simp only [List.cons_append, run, ih]
    split
    · simp only [Prod.mk.injEq, true_and]
      omega
    · rfl

end Machine

/-! ## 4. Walks -/

/-- A loop that was walked before a walk counts as walked after it. -/
theorem visited_subset_walk (loop : Nat) (keyword : Location) (path : List String)
    (position : Nat) (machine : Machine) (visited : List Nat) (statements : List Statement) :
    visited ⊆ (walk context loop keyword path position machine visited statements).visited := by
  fun_induction walk context loop keyword path position machine visited statements with
  | case1 => exact List.Subset.refl _
  | case3 loop keyword path position machine visited kind inner body rest next fresh nested after
      ihNested =>
    rename_i ihAfter
    exact fun p hp => ihAfter (ihNested (List.mem_cons_of_mem _ hp))
  | case4 loop keyword path position machine visited receiver name arguments symbol location rest
      next helper identity start body entered helped after ihHelped =>
    rename_i ihAfter
    exact fun p hp => ihAfter (ihHelped hp)
  | case2 | case5 | case6 | case7 | case8 => assumption

/-- A note of a walk is made in the name of the walk's own loop, or of one that had not been walked
before. -/
theorem loop_of_mem_notes (loop : Nat) (keyword : Location) (path : List String)
    (position : Nat) (machine : Machine) (visited : List Nat) (statements : List Statement) :
    ∀ note ∈ (walk context loop keyword path position machine visited statements).notes,
      note.loop = loop ∨ note.loop ∉ visited := by
  fun_induction walk context loop keyword path position machine visited statements with
  | case1 => simp
  | case2 => assumption
  | case3 loop keyword path position machine visited kind inner body rest next fresh nested after
      ihNested =>
    rename_i ihAfter
    have fresh : position ∉ visited := by simpa using fresh
    intro note hn
    rcases List.mem_append.mp hn with hn | hn
    · rcases List.mem_cons.mp hn with rfl | hn
      · exact .inr fresh
      · rcases ihNested note hn with h | h
        · exact .inr (h ▸ fresh)
        · exact .inr fun hv => h (List.mem_cons_of_mem _ hv)
    · refine (ihAfter note hn).imp_right fun h hv => h ?_
      exact visited_subset_walk _ _ _ _ _ _ _ (List.mem_cons_of_mem _ hv)
  | case4 loop keyword path position machine visited receiver name arguments symbol location rest
      next helper identity start body entered helped after ihHelped =>
    rename_i ihAfter
    intro note hn
    rcases List.mem_append.mp hn with hn | hn
    · exact ihHelped note hn
    · exact (ihAfter note hn).imp_right fun h hv => h (visited_subset_walk _ _ _ _ _ _ _ hv)
  | case5 | case6 =>
    rename_i ih
    intro note hn
    rcases List.mem_cons.mp hn with rfl | hn
    · exact .inl rfl
    · exact ih note hn
  | case7 | case8 => assumption

/-- The machine that a walk leaves is the machine run over the stream. -/
theorem walk_machine (loop : Nat) (keyword : Location) (path : List String)
    (position : Nat) (machine : Machine) (visited : List Nat) (statements : List Statement) :
    (walk context loop keyword path position machine visited statements).machine =
      (machine.run (roleStream context path statements)).1 := by
  fun_induction walk context loop keyword path position machine visited statements with
  | case1 => simp [Machine.run]
  | case2 =>
    rename_i ih
    rw [roleStream_of_not_call (by simp), ih]
  | case3 loop keyword path position machine visited kind inner body rest next fresh nested after
      ihNested =>
    rename_i ihAfter
    rw [roleStream_of_not_call (by simp), ← ihAfter]
  | case4 loop keyword path position machine visited receiver name arguments symbol location rest
      next helper identity start body entered helped after ihHelped =>
    rename_i ihAfter
    rw [roleStream_of_inlined helper (Context.inlined?_of_entered entered), Machine.run_append]
    rw [← ihHelped, ← ihAfter]
  | case5 loop keyword path position machine visited receiver name arguments symbol location rest
      next helper refusal refused after =>
    rename_i ih
    rw [roleStream_of_not_inlined helper (Context.inlined?_of_refused refused), ← ih]
  | case6 loop keyword path position machine visited receiver name arguments symbol location rest
      next plain after reports =>
    rename_i ih
    rw [run_roleStream_of_role machine plain, Machine.run, ← ih]
  | case7 loop keyword path position machine visited receiver name arguments symbol location rest
      next plain after silent =>
    rename_i ih
    rw [run_roleStream_of_role machine plain, Machine.run, ← ih]
  | case8 loop keyword path position machine visited statement rest notLoop notCall =>
    rename_i ih
    rw [roleStream_of_not_call notCall, ih]

/-! ## 5. Reports -/

/-- The findings that are reported in the name of a loop. -/
def reportsOf (loop : Nat) (notes : List Note) : List Diagnostic :=
  notes.filterMap fun note => if note.loop = loop then note.remark.diagnostic? else none

theorem reportsOf_append (loop : Nat) (front back : List Note) :
    reportsOf loop (front ++ back) = reportsOf loop front ++ reportsOf loop back :=
  List.filterMap_append

/-- A note that holds no report can be passed over. -/
theorem reportsOf_cons_silent {loop : Nat} {note : Note} {notes : List Note}
    (h : note.remark.diagnostic? = none) :
    reportsOf loop (note :: notes) = reportsOf loop notes := by
  simp [reportsOf, h]

/-- Notes made in the name of other loops hold no report of the loop. -/
theorem reportsOf_eq_nil {loop : Nat} {notes : List Note}
    (h : ∀ note ∈ notes, note.loop ≠ loop) : reportsOf loop notes = [] := by
  refine List.filterMap_eq_nil_iff.mpr ?_
  intro note hn
  rw [if_neg (h note hn)]

/-- The reports of a walk's own loop are those of the machine run over the stream, each at the
keyword of the loop. -/
theorem reportsOf_walk (loop : Nat) (keyword : Location) (path : List String)
    (position : Nat) (machine : Machine) (visited : List Nat) (statements : List Statement)
    (walked : loop ∈ visited) :
    reportsOf loop
        (walk context loop keyword path position machine visited statements).notes =
      List.replicate (machine.run (roleStream context path statements)).2
        (.keylessLoop keyword) := by
  fun_induction walk context loop keyword path position machine visited statements with
  | case1 => simp [Machine.run, reportsOf]
  | case2 =>
    rename_i ih
    rw [roleStream_of_not_call (by simp), ih walked]
  | case3 loop keyword path position machine visited kind inner body rest next fresh nested after
      ihNested =>
    rename_i ihAfter
    -- the notes of the loop inside are made in its own name or in that of loops not yet walked
    have others : reportsOf loop (⟨position, loopRemark kind inner⟩ :: nested.notes) = [] := by
      have fresh : position ∉ visited := by simpa using fresh
      refine reportsOf_eq_nil ?_
      intro note hn same
      rcases List.mem_cons.mp hn with rfl | hn
      · have same : position = loop := same
        exact fresh (same ▸ walked)
      · rcases loop_of_mem_notes _ _ _ _ _ _ _ note hn with h | h
        · exact fresh (h ▸ same ▸ walked)
        · exact h (same ▸ List.mem_cons_of_mem _ walked)
    have walked : loop ∈ nested.visited :=
      visited_subset_walk _ _ _ _ _ _ _ (List.mem_cons_of_mem _ walked)
    rw [roleStream_of_not_call (by simp), reportsOf_append, others, List.nil_append]
    exact ihAfter walked
  | case4 loop keyword path position machine visited receiver name arguments symbol location rest
      next helper identity start body entered helped after ihHelped =>
    rename_i ihAfter
    have stillWalked : loop ∈ helped.visited := visited_subset_walk _ _ _ _ _ _ _ walked
    rw [roleStream_of_inlined helper (Context.inlined?_of_entered entered), Machine.run_append,
      reportsOf_append, ihHelped walked, ihAfter stillWalked, walk_machine,
      List.replicate_append_replicate]
  | case5 loop keyword path position machine visited receiver name arguments symbol location rest
      next helper refusal refused after =>
    rename_i ih
    rw [roleStream_of_not_inlined helper (Context.inlined?_of_refused refused),
      reportsOf_cons_silent rfl]
    exact ih walked
  | case6 loop keyword path position machine visited receiver name arguments symbol location rest
      next plain after reports =>
    rename_i ih
    rw [run_roleStream_of_role machine plain, Machine.run_cons, if_pos reports,
      List.replicate_succ, ← ih walked]
    simp [reportsOf, Remark.diagnostic?, after]
  | case7 loop keyword path position machine visited receiver name arguments symbol location rest
      next plain after silent =>
    rename_i ih
    rw [run_roleStream_of_role machine plain, Machine.run_cons, if_neg silent, ← ih walked]
  | case8 loop keyword path position machine visited statement rest notLoop notCall =>
    rename_i ih
    rw [roleStream_of_not_call notCall, ih walked]

/-! ## 6. Small programs -/

namespace Example

/-- A call on the builder. -/
def call (name : String) : Statement :=
  .expression (.invocation (some "builder") name [] none {})

/-- A call that hands the builder to the method of the symbol. -/
def helperCall (symbol : String) : Statement :=
  .expression (.invocation none symbol [.identifier "builder"] (some symbol) {})

/-- A loop whose keyword stands on the line. -/
def loop (line : Int) (body : List Statement) : Statement :=
  .loop .iterating { line := line } (.block body)

/-- A method with a body. -/
def method (name symbol : String) (body : List Statement) : Snapshot.Member :=
  .methodDeclaration name (some symbol) ["builder"] (some body) {}

/-- A snapshot of one file with the methods. -/
def fileOf (methods : List Snapshot.Member) : Snapshot :=
  { files := [{ members := methods }] }

/-- A helper that renders an element around a loop without a key, and calls itself inside it. -/
def rows : Context :=
  ⟨{}, .ofSnapshot (fileOf [method "Rows" "Rows" [
    call "OpenElement", loop 2 [helperCall "Rows", call "OpenElement", call "CloseElement"],
    call "CloseElement"]])⟩

end Example

/-! ## 7. The refinement -/

/-- Analysing a loop that was not walked before, on any path and whatever loops were walked, leaves
its machine in the state, and reports at its keyword as often, as running the plain machine from
outside any element over the role stream of its body. -/
theorem analyzeLoop_refines_fold (context : Context) (path : List String) (visited : List Nat)
    (position : Nat) (kind : LoopKind) (keyword : Location) (statements : List Statement)
    (fresh : position ∉ visited) :
    let progress := walkLoop context path visited position keyword statements
    let folded := (⟨-1, false⟩ : Machine).run (roleStream context path statements)
    analyzeLoop context path visited position kind keyword (.block statements) =
        (progress.visited, loopRemark kind keyword :: progress.notes.map (·.remark)) ∧
      progress.machine = folded.1 ∧
      reportsOf position progress.notes = List.replicate folded.2 (.keylessLoop keyword) := by
  refine ⟨?_, ?_, ?_⟩
  · simp [analyzeLoop, blockBody?, fresh]
  · exact walk_machine _ _ _ _ _ _ _
  · exact reportsOf_walk _ _ _ _ _ _ _ List.mem_cons_self

/-- A loop that does nothing but call `Rows` opens and closes one element without a key; the loop
inside the helper is judged on its own. -/
theorem analyzeLoop_refines_fold_rows :
    let progress := walkLoop Example.rows [] [3] 9 { line := 1 } [Example.helperCall "Rows"]
    9 ∉ [3] ∧ progress.machine = ⟨-1, false⟩ ∧
      reportsOf 9 progress.notes = [.keylessLoop { line := 1 }] := by
  have fresh : 9 ∉ [3] := by decide
  have stream : roleStream Example.rows [] [Example.helperCall "Rows"] =
      [.opening, .closing] := by cbv
  obtain ⟨-, machine, reports⟩ := analyzeLoop_refines_fold Example.rows [] [3] 9 .iterating
    { line := 1 } [Example.helperCall "Rows"] fresh
  rw [stream] at machine reports
  exact ⟨fresh, machine, reports⟩

end ComponentPasses.LoopKeys

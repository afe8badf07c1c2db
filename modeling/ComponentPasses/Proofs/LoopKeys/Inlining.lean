import ComponentPasses.Proofs.LoopKeys.HelperCalls
import ComponentPasses.Proofs.Snapshot.Editing

/-!
# Helper calls are as if inlined

A helper call in a loop counts as the body of the helper in its place.  `Inlines` carries this out
on the source: every call to a helper that can be resolved is replaced by the statements of the
helper, in which the same is done.  What does not count for the machine of the loop stays as it is.

Where the calls unfold, no guard of the analysis ever stops one.  The calls can then be replaced, in
one way only, and the role stream of the loop is the roles of the statements that come of it, each
taken for itself (`roleStream_of_inlines`).  In the edited program those statements hold no call
that can be resolved, so their stream is the same, and the loop is reported as often after as
before, at the same place (`walkLoop_inlined`).
-/

namespace ComponentPasses.LoopKeys

open Snapshot (Location LoopKind Statement Method)

variable {context : Context}

/-! ## 1. Replacing the calls -/

/-- What becomes of statements when each call to a helper is replaced by the statements of the
helper, in which the same is done. -/
inductive Inlines (context : Context) : List Statement → List Statement → Prop
  | nil : Inlines context [] []
  | keep {statement : Statement} {rest flat : List Statement} :
      context.called? statement = none → Inlines context rest flat →
        Inlines context (statement :: rest) (statement :: flat)
  | replace {statement : Statement} {helper : Helper} {rest inside flat : List Statement} :
      context.called? statement = some helper → Inlines context helper.body inside →
        Inlines context rest flat → Inlines context (statement :: rest) (inside ++ flat)

/-- The calls among statements can be replaced where those in the helpers can. -/
theorem exists_inlines_of_helpers {statements : List Statement}
    (inside : ∀ helper ∈ context.callsAmong statements, ∃ flat, Inlines context helper.body flat) :
    ∃ flat, Inlines context statements flat := by
  induction statements with
  | nil => exact ⟨[], .nil⟩
  | cons statement rest ih =>
    obtain ⟨flat, others⟩ :=
      ih fun helper called => inside helper (callsAmong_rest_subset statement rest called)
    cases called : context.called? statement with
    | none => exact ⟨statement :: flat, .keep called others⟩
    | some helper =>
      obtain ⟨body, replaced⟩ := inside helper (mem_callsAmong_head called rest)
      exact ⟨body ++ flat, .replace called replaced others⟩

/-- The calls can be replaced where chains of them have a bound. -/
theorem ChainsWithin.exists_inlines {bound : Nat} {statements : List Statement}
    (short : ChainsWithin context bound statements) :
    ∃ flat, Inlines context statements flat := by
  induction bound generalizing statements with
  | zero =>
    have none := List.isEmpty_iff.mp (chainsWithin_zero_iff.mp short)
    refine exists_inlines_of_helpers fun helper called => ?_
    exact absurd (none ▸ called) List.not_mem_nil
  | succ bound ih =>
    exact exists_inlines_of_helpers fun helper called =>
      ih (chainsWithin_succ_iff.mp short helper called)

/-- The calls can be replaced in one way only. -/
theorem Inlines.unique {statements flat flat' : List Statement}
    (h : Inlines context statements flat) (h' : Inlines context statements flat') :
    flat = flat' := by
  induction h generalizing flat' with
  | nil => cases h'; rfl
  | keep kept _ ih =>
    cases h' with
    | keep _ others => rw [ih others]
    | replace called => cases kept.symm.trans called
  | replace called _ _ ihInside ih =>
    cases h' with
    | keep kept => cases kept.symm.trans called
    | replace called' inside others =>
      cases called.symm.trans called'
      rw [ihInside inside, ih others]

/-- No call is left that can be resolved. -/
theorem Inlines.called?_eq_none {statements flat : List Statement}
    (h : Inlines context statements flat) :
    ∀ statement ∈ flat, context.called? statement = none := by
  induction h with
  | nil => exact fun _ none => absurd none List.not_mem_nil
  | keep kept _ ih => exact List.forall_mem_cons.mpr ⟨kept, ih⟩
  | replace _ _ _ ihInside ih => exact List.forall_mem_append.mpr ⟨ihInside, ih⟩

/-! ## 2. The stream of what comes of it -/

/-- The roles of the statement for itself: the role of a single call that is no helper call. -/
def ownRoles (settings : Settings) : Statement → List Role
  | .expression (.invocation receiver name arguments _ _) =>
    match roleOf settings receiver name arguments with
    | .helper | .other => []
    | role => [role]
  | _ => []

section Stream

variable {path : List String} {statement : Statement} {rest : List Statement}

theorem inlined?_of_helper?_eq_none {symbol : Option String}
    (h : context.helper? symbol = none) : context.inlined? path symbol = none := by
  unfold Context.helper? at h
  unfold Context.inlined?
  cases callee : context.compilation.callee? symbol with
  | none => rfl
  | some method =>
    have noBody : method.body = none := by simpa [callee] using h
    simp [noBody]

theorem inlined?_of_helper? {symbol : Option String} {helper : Helper}
    (h : context.helper? symbol = some helper) (fresh : helper.identity ∉ path)
    (short : path.length < context.settings.maxInlineDepth) :
    context.inlined? path symbol = some (helper.identity, helper.body) := by
  obtain ⟨method, callee, hasBody⟩ := Option.bind_eq_some_iff.mp h
  obtain ⟨body, declared, rfl⟩ := Option.map_eq_some_iff.mp hasBody
  have fresh : method.identity ∉ path := fresh
  simp [Context.inlined?, callee, declared, fresh, short]

/-- A statement that calls no helper adds its own roles to the stream. -/
theorem roleStream_of_called?_eq_none (h : context.called? statement = none) :
    roleStream context path (statement :: rest) =
      ownRoles context.settings statement ++ roleStream context path rest := by
  match statement with
  | .expression (.invocation receiver name arguments symbol location) =>
    cases role : roleOf context.settings receiver name arguments with
    | helper =>
      have unresolved : context.helper? symbol = none := by simpa [Context.called?, role] using h
      rw [roleStream_of_not_inlined role (inlined?_of_helper?_eq_none unresolved)]
      simp [ownRoles, role]
    | other | opening | closing | keying => simp [roleStream, ownRoles, role]
  | .expression (.identifier _) | .expression (.lambda ..) | .expression (.literal _)
  | .block _ | .loop .. | .other .. =>
    rw [roleStream_of_not_call (by simp)]
    rfl

/-- A call to a helper adds the stream of the helper where no guard stops it. -/
theorem roleStream_of_called? {helper : Helper} (h : context.called? statement = some helper)
    (fresh : helper.identity ∉ path) (short : path.length < context.settings.maxInlineDepth) :
    roleStream context path (statement :: rest) =
      roleStream context (helper.identity :: path) helper.body ++ roleStream context path rest := by
  unfold Context.called? at h
  split at h
  · split at h
    · rename_i role
      exact roleStream_of_inlined role (inlined?_of_helper? h fresh short)
    · cases h
  · cases h

/-- The stream of statements is the roles of what comes of replacing the calls. -/
theorem roleStream_of_inlines {statements flat : List Statement}
    (h : Inlines context statements flat) (fits : Fits context path statements) :
    roleStream context path statements = flat.flatMap (ownRoles context.settings) := by
  induction h generalizing path with
  | nil => rw [roleStream_nil, List.flatMap_nil]
  | keep kept _ ih =>
    rw [roleStream_of_called?_eq_none kept, ih fits.rest, List.flatMap_cons]
  | @replace statement helper rest inside flat called _ _ ihInside ih =>
    have isCalled := mem_callsAmong_head called rest
    rw [roleStream_of_called? called (fits.fresh isCalled) (fits.length_lt isCalled),
      ihInside (fits.inside isCalled), ih fits.rest, List.flatMap_append]

/-- The stream of statements that call no helper is their own roles. -/
theorem roleStream_of_no_calls {statements : List Statement}
    (h : ∀ statement ∈ statements, context.called? statement = none) :
    roleStream context path statements = statements.flatMap (ownRoles context.settings) := by
  induction statements with
  | nil => rw [roleStream_nil, List.flatMap_nil]
  | cons statement rest ih =>
    obtain ⟨here, others⟩ := List.forall_mem_cons.mp h
    rw [roleStream_of_called?_eq_none here, ih others, List.flatMap_cons]

end Stream

/-! ## 3. The edited program -/

/-- A symbol has a helper exactly if the method that it goes to has a body. -/
theorem isSome_helper? (context : Context) (symbol : Option String) :
    (context.helper? symbol).isSome =
      ((context.compilation.callee? symbol).map Method.head).any (·.2) := by
  unfold Context.helper?
  cases context.compilation.callee? symbol with
  | none => rfl
  | some method => exact Option.isSome_map

/-- The calls that can be resolved are the same in an edited program. -/
theorem called?_edit_eq_none_iff {settings : Settings} {snapshot : Snapshot}
    {change : Statement → Statement} {position : Nat} (statement : Statement) :
    Context.called? ⟨settings, .ofSnapshot (snapshot.edit change position)⟩ statement = none ↔
      Context.called? ⟨settings, .ofSnapshot snapshot⟩ statement = none := by
  unfold Context.called?
  split
  · split
    · rw [← Option.not_isSome_iff_eq_none, ← Option.not_isSome_iff_eq_none, isSome_helper?,
        isSome_helper?, Snapshot.callee?_edit]
    · rfl
  · rfl

/-! ## 4. The loop before and after -/

namespace Example

/-- A loop that renders an element through one helper for each end of it.  The first of them calls
a third, which holds a loop of its own. -/
def page : Snapshot :=
  fileOf [
    method "Page" "Page" [loop 1 [helperCall "Head", call "SetKey", helperCall "Tail"]],
    method "Head" "Head" [call "OpenElement", helperCall "Text"],
    method "Text" "Text" [call "AddContent", loop 5 [call "OpenElement", call "CloseElement"]],
    method "Tail" "Tail" [call "CloseElement", call "OpenElement", call "CloseElement"]]

end Example

/-- In a loop whose calls unfold, every call to a helper can be replaced by the statements of the
helper, in one way.  In the program with the loop so edited, the loop stands where it stood, and its
walk on the empty path reports at its keyword as often, whatever loops were walked before either. -/
theorem walkLoop_inlined (settings : Settings) (snapshot : Snapshot) (position : Nat)
    (kind : LoopKind) (keyword : Location) (body : List Statement)
    (stands : snapshot.nodes[position]? = some (.statement (.loop kind keyword (.block body))))
    (unfolds : Unfolds ⟨settings, .ofSnapshot snapshot⟩ body) :
    let context : Context := ⟨settings, .ofSnapshot snapshot⟩
    (∃! flat, Inlines context body flat) ∧
      ∀ flat, Inlines context body flat →
        let inlined := snapshot.edit (Statement.withBody flat) position
        let context' : Context := ⟨settings, .ofSnapshot inlined⟩
        inlined.nodes[position]? = some (.statement (.loop kind keyword (.block flat))) ∧
          (∀ statement ∈ flat, context'.called? statement = none) ∧
          ∃ count,
            (∀ visited,
              reportsOf position (walkLoop context [] visited position keyword body).notes =
                List.replicate count (.keylessLoop keyword)) ∧
            ∀ visited,
              reportsOf position (walkLoop context' [] visited position keyword flat).notes =
                List.replicate count (.keylessLoop keyword) := by
  intro context
  refine ⟨?_, ?_⟩
  · obtain ⟨flat, inlines⟩ := unfolds.short.exists_inlines
    exact ⟨flat, inlines, fun _ others => others.unique inlines⟩
  intro flat inlines inlined context'
  have noCalls : ∀ statement ∈ flat, context'.called? statement = none :=
    fun statement member =>
      (called?_edit_eq_none_iff statement).mpr (inlines.called?_eq_none statement member)
  -- both walks run the machine over the roles of the new statements
  have before := roleStream_of_inlines inlines unfolds.fits
  have after : roleStream context' [] flat = flat.flatMap (ownRoles settings) :=
    roleStream_of_no_calls noCalls
  refine ⟨Snapshot.getElem?_edit stands, noCalls,
    (({} : Machine).run (flat.flatMap (ownRoles settings))).2, fun visited => ?_, fun visited => ?_⟩
  · rw [walkLoop, reportsOf_walk _ _ _ _ _ _ _ List.mem_cons_self, before]
  · rw [walkLoop, reportsOf_walk _ _ _ _ _ _ _ List.mem_cons_self, after]

open LoopKeys.Example in
/-- The element that `Head` opens and `Tail` closes gets its key from the loop; the second one that
`Tail` renders has none, and is reported once. -/
theorem walkLoop_inlined_page :
    let context : Context := ⟨{}, .ofSnapshot page⟩
    let body := [helperCall "Head", call "SetKey", helperCall "Tail"]
    let flat := [call "OpenElement", call "AddContent",
      loop 5 [call "OpenElement", call "CloseElement"], call "SetKey", call "CloseElement",
      call "OpenElement", call "CloseElement"]
    let context' : Context := ⟨{}, .ofSnapshot (page.edit (Statement.withBody flat) 2)⟩
    page.nodes[2]? = some (.statement (loop 1 body)) ∧ Unfolds context body ∧
      Inlines context body flat ∧
      reportsOf 2 (walkLoop context [] [] 2 { line := 1 } body).notes =
        [.keylessLoop { line := 1 }] ∧
      reportsOf 2 (walkLoop context' [] [] 2 { line := 1 } flat).notes =
        [.keylessLoop { line := 1 }] := by
  intro context body flat context'
  have stands : page.nodes[2]? = some (.statement (loop 1 body)) := rfl
  have unfolds : Unfolds context body := by decide
  have text : Inlines context [call "AddContent", loop 5 [call "OpenElement", call "CloseElement"]]
      [call "AddContent", loop 5 [call "OpenElement", call "CloseElement"]] :=
    .keep rfl (.keep rfl .nil)
  have textCall : Inlines context [helperCall "Text"] (_ ++ []) := .replace rfl text .nil
  have head : Inlines context [call "OpenElement", helperCall "Text"]
      (call "OpenElement" :: _) := .keep rfl textCall
  have tail : Inlines context [call "CloseElement", call "OpenElement", call "CloseElement"]
      [call "CloseElement", call "OpenElement", call "CloseElement"] :=
    .keep rfl (.keep rfl (.keep rfl .nil))
  have tailCall : Inlines context [helperCall "Tail"] (_ ++ []) := .replace rfl tail .nil
  have inlines : Inlines context body (_ ++ (call "SetKey" :: _)) :=
    .replace rfl head (.keep rfl tailCall)
  obtain ⟨-, result⟩ := walkLoop_inlined {} page 2 .iterating { line := 1 } body stands unfolds
  obtain ⟨-, -, count, before, after⟩ := result flat inlines
  have once : reportsOf 2 (walkLoop context [] [] 2 { line := 1 } body).notes =
      [.keylessLoop { line := 1 }] := by
    rw [walkLoop, reportsOf_walk _ _ _ _ _ _ _ List.mem_cons_self,
      roleStream_of_inlines inlines unfolds.fits]
    decide
  exact ⟨stands, unfolds, inlines, once, ((after []).trans (before []).symm).trans once⟩

end ComponentPasses.LoopKeys

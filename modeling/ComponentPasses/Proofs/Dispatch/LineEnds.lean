import ComponentPasses.Proofs.Dispatch.Plan
import ComponentPasses.Proofs.Source.LineEnds

/-!
# How many lines a dispatcher has

The layouts of the override and the implementation fix how many lines they have: the override 16,
the implementation 20 and six more for each parameter, and both three more inside a namespace.  What
comes from outside brings in no line end beyond these, but for identifiers that end in one
themselves (`emit_lineEnds`).  The override holds the identifiers of the class once, and the
implementation also the name of each parameter twice, once for each tier.

So the numbers are right, and the lines of both texts are the lines of the layouts, exactly where no
identifier ends in a line end.
-/

namespace ComponentPasses.Dispatch

open Source
open Source.Layout (Holds)

/-! ## 1. Identifiers -/

/-- The identifiers of a class that go into its source: the parts of its namespace, its name and its
type parameters. -/
def ClassInfo.identifiers (info : ClassInfo) : List String :=
  (if info.enclosing = "" then [] else Text.split '.' info.enclosing) ++
    info.name :: info.typeParameters

/-- The lines that a namespace adds to each text. -/
def ClassInfo.namespaceLines (info : ClassInfo) : Nat :=
  if info.enclosing = "" then 0 else 3

/-- Whether no identifier that goes into the source ends in a line end. -/
def EndNoLine (info : ClassInfo) (parameters : List Parameter) : Prop :=
  (∀ name ∈ info.identifiers, endsLine name = false) ∧
    ∀ parameter ∈ parameters, endsLine parameter.name = false

instance (info : ClassInfo) (parameters : List Parameter) : Decidable (EndNoLine info parameters) :=
  inferInstanceAs (Decidable (_ ∧ _))

section Layouts

variable {info : ClassInfo} {parameters : List Parameter}

/-! ## 2. The class -/

theorem brings_typeHeader (writable : info.Writable) (parameters : List Parameter) :
    Brings (planOf info parameters).typeHeader
      ((info.name :: info.typeParameters).countP endsLine) := by
  have opening : Brings "public partial " 0 := .of_chars rfl
  have keyword : Brings info.kind.keyword 0 := by
    cases info.kind <;> exact .of_chars rfl
  have blank : Brings " " 0 := .of_chars rfl
  have comma : Brings ", " 0 := .of_chars rfl
  have name := ((opening.append keyword).append blank).append (brings_writtenName writable.name)
  have listed : Brings
      (if info.typeParameters.map writtenName = [] then ""
        else "<" ++ ", ".intercalate (info.typeParameters.map writtenName) ++ ">")
      (info.typeParameters.countP endsLine) := by
    split
    · rename_i none
      rw [List.map_eq_nil_iff.mp none]
      exact .of_visible nofun
    · have left : Brings "<" 0 := .of_chars rfl
      have right : Brings ">" 0 := .of_chars rfl
      simpa using (left.append (brings_joinedNames comma writable.typeParameters)).append right
  have count : (info.name :: info.typeParameters).countP endsLine =
      0 + 0 + 0 + (endsLine info.name).toNat + info.typeParameters.countP endsLine := by
    rw [List.countP_cons]
    cases endsLine info.name <;> simp [Nat.add_comm]
  rw [count]
  exact name.append listed

theorem holds_inType (writable : info.Writable) (parameters : List Parameter)
    {body : List Layout} {lines inside : Nat} (h : Holds body lines inside) :
    Holds (inType (planOf info parameters) body) (lines + 3 + info.namespaceLines)
      (info.identifiers.countP endsLine + inside) := by
  have typed := Holds.block (brings_typeHeader writable parameters) h
  rw [inType, ClassInfo.namespaceLines, ClassInfo.identifiers]
  -- The plan decides by the namespace as it is written, which is empty only if there is none.
  by_cases global : info.enclosing = ""
  · have none : (planOf info parameters).enclosing = "" := if_pos global
    rw [if_pos none, if_pos global, if_pos global]
    exact typed
  · have named : ∀ part ∈ Text.split '.' info.enclosing, isIdentifier part.toList = true :=
      writable.enclosing.resolve_left global
    have enclosing : (planOf info parameters).enclosing = writtenNamespace info.enclosing :=
      if_neg global
    have some : (planOf info parameters).enclosing ≠ "" :=
      enclosing ▸ writtenNamespace_ne_empty named
    have point : Brings "." 0 := .of_chars rfl
    have keyword : Brings "namespace " 0 := .of_chars rfl
    have header := keyword.append (brings_joinedNames point named)
    rw [Nat.zero_add] at header
    have all := Holds.block header typed
    rw [if_neg some, if_neg global, if_neg global, enclosing, List.countP_append]
    exact all.congr rfl (Nat.add_assoc _ _ _).symm

/-! ## 3. The tiers -/

/-- The three lines of an arm: only the name of the property can end a line early. -/
theorem holds_arm {parameter : Parameter} (writable : Writable parameter) {label : String}
    (labelled : Brings (stringLiteral label) 0) :
    Holds (armLayout (armFor label parameter)) 3 (endsLine parameter.name).toNat := by
  have front : Brings "case " 0 := .of_chars rfl
  have back : Brings ":" 0 := .of_chars rfl
  have receiver : Brings "this." 0 := .of_chars rfl
  have equals : Brings " = (" 0 := .of_chars rfl
  have value : Brings ")value;" 0 := .of_chars rfl
  have leave : Brings "break;" 0 := .of_chars rfl
  have first := Holds.line ((front.append labelled).append back)
  have second := Holds.line ((((receiver.append (brings_writtenName writable.1)).append
    equals).append (brings_trim writable.2)).append value)
  have all := first.append (second.append (Holds.line leave)).indented
  simpa [armLayout, armFor] using all

theorem holds_tier (each : ∀ parameter ∈ parameters, Writable parameter)
    {labelOf : Parameter → String}
    (labelled : ∀ parameter ∈ parameters, Brings (stringLiteral (labelOf parameter)) 0) :
    Holds ((parameters.map fun parameter => armFor (labelOf parameter) parameter).flatMap armLayout)
      (3 * parameters.length) (parameters.countP (endsLine ·.name)) := by
  have count : (parameters.map fun parameter => (endsLine parameter.name).toNat).sum =
      parameters.countP (endsLine ·.name) := sum_map_toNat _ _
  rw [List.flatMap_map, ← count]
  exact Holds.flatMap fun parameter present =>
    holds_arm (each parameter present) (labelled parameter present)

/-- Both tiers, one inside the other. -/
theorem holds_exactSwitch {exact lowered : List Arm} {lines lines' inside inside' : Nat}
    (first : Holds (exact.flatMap armLayout) lines inside)
    (second : Holds (lowered.flatMap armLayout) lines' inside') :
    Holds [exactSwitch exact lowered] (lines + lines' + 12) (inside + inside') := by
  have outer : Brings "switch (name)" 0 := .of_chars rfl
  have inner : Brings "switch (name.ToLowerInvariant())" 0 := .of_chars rfl
  have otherwise : Brings "default:" 0 := .of_chars rfl
  have leave : Brings "break;" 0 := .of_chars rfl
  have unknown :
      Brings "throw new ArgumentException($\"Unknown parameter: \x7bname\x7d\");" 0 :=
    .of_chars rfl
  have refusal := (Holds.line otherwise).append (Holds.line unknown).indented
  have lowered := Holds.block inner (second.append refusal)
  have rest := Holds.block otherwise (lowered.append (Holds.line leave))
  exact (Holds.block outer (first.append rest)).congr (by omega) (by omega)

/-! ## 4. The two texts -/

theorem holds_overrideLayout (writable : info.Writable) (parameters : List Parameter) :
    Holds (overrideLayout (planOf info parameters)) (16 + info.namespaceLines)
      (info.identifiers.countP endsLine) := by
  have components : Brings "using Microsoft.AspNetCore.Components;" 0 := .of_chars rfl
  have tasks : Brings "using System.Threading.Tasks;" 0 := .of_chars rfl
  have method : Brings "public override Task SetParametersAsync(ParameterView parameters)" 0 :=
    .of_chars rfl
  have loop : Brings "foreach (var parameter in parameters)" 0 := .of_chars rfl
  have dispatcher : Brings dispatcherMethod 0 := .of_chars rfl
  have arguments : Brings "(parameter.Name, parameter.Value);" 0 := .of_chars rfl
  have remark :
      Brings "// Run the normal lifecycle methods, but without assigning parameters again" 0 :=
    .of_chars rfl
  have base : Brings "return base.SetParametersAsync(ParameterView.Empty);" 0 := .of_chars rfl
  have imports := (Holds.line components).append ((Holds.line tasks).append .blank)
  have hand := Holds.block loop (Holds.line (dispatcher.append arguments))
  have rest := Holds.blank.append ((Holds.line remark).append (Holds.line base))
  have body := Holds.block method (hand.append rest)
  exact (imports.append (holds_inType writable parameters body)).congr (by omega) (by omega)

theorem holds_implementationLayout (writable : info.Writable)
    (each : ∀ parameter ∈ parameters, Writable parameter) :
    Holds (implementationLayout (planOf info parameters))
      (20 + 6 * parameters.length + info.namespaceLines)
      (info.identifiers.countP endsLine + 2 * parameters.countP (endsLine ·.name)) := by
  have system : Brings "using System;" 0 := .of_chars rfl
  have modifiers : Brings "private void " 0 := .of_chars rfl
  have dispatcher : Brings dispatcherMethod 0 := .of_chars rfl
  have signature : Brings "(string name, object value)" 0 := .of_chars rfl
  have imports := (Holds.line system).append .blank
  have exact :=
    holds_tier each fun parameter present => (brings_literals (each parameter present).1).1
  have lowered :=
    holds_tier each fun parameter present => (brings_literals (each parameter present).1).2
  have body :=
    Holds.block ((modifiers.append dispatcher).append signature) (holds_exactSwitch exact lowered)
  exact (imports.append (holds_inType writable parameters body)).congr (by omega) (by omega)

theorem brings_overrideText (writable : info.Writable) (parameters : List Parameter) :
    Brings (overrideText (planOf info parameters))
      (16 + info.namespaceLines + info.identifiers.countP endsLine) :=
  (holds_overrideLayout writable parameters).brings_text (List.cons_ne_nil _ _)

theorem brings_implementationText (writable : info.Writable)
    (each : ∀ parameter ∈ parameters, Writable parameter) :
    Brings (implementationText (planOf info parameters))
      (20 + 6 * parameters.length + info.namespaceLines +
        (info.identifiers.countP endsLine + 2 * parameters.countP (endsLine ·.name))) :=
  (holds_implementationLayout writable each).brings_text (List.cons_ne_nil _ _)

/-- No identifier ends in a line end exactly if there are none to count. -/
theorem endNoLine_iff :
    EndNoLine info parameters ↔
      info.identifiers.countP endsLine = 0 ∧ parameters.countP (endsLine ·.name) = 0 := by
  simp [EndNoLine, List.countP_eq_zero]

end Layouts

/-! ## 5. What comes from outside -/

/-- **A name adds a line only by ending in a line end.**  Both texts have the line ends of their
layouts, one more for each identifier of the class that ends in a line end, and the implementation
two more for each such parameter name; every other character is visible.  So the numbers are those
of the layouts exactly where no identifier ends in a line end, and then the lines of the texts are
those that were laid out. -/
theorem emit_lineEnds {info : ClassInfo} {parameters : List Parameter}
    {override implementation : Artifact}
    (emitted : emit info parameters = .ok (override, implementation)) :
    Brings override.content (16 + info.namespaceLines + info.identifiers.countP endsLine) ∧
      Brings implementation.content
        (20 + 6 * parameters.length + info.namespaceLines +
          (info.identifiers.countP endsLine + 2 * parameters.countP (endsLine ·.name))) ∧
      ((lineEnds override.content = 16 + info.namespaceLines ∧
          lineEnds implementation.content = 20 + 6 * parameters.length + info.namespaceLines) ↔
        EndNoLine info parameters) ∧
      (EndNoLine info parameters →
        Text.split '\n' override.content =
            Layout.linesOfAll 0 (overrideLayout (planOf info parameters)) ++ [""] ∧
          Text.split '\n' implementation.content =
            Layout.linesOfAll 0 (implementationLayout (planOf info parameters)) ++ [""]) := by
  obtain ⟨writable, each, pair⟩ := emit_eq_ok_iff.mp emitted
  obtain ⟨rfl, rfl⟩ := Prod.mk.inj pair
  have overriding := brings_overrideText writable parameters
  have implementing := brings_implementationText writable each
  refine ⟨overriding, implementing, ?_, fun none => ?_⟩
  · rw [overriding.lineEnds, implementing.lineEnds, endNoLine_iff]
    omega
  · obtain ⟨own, names⟩ := endNoLine_iff.mp none
    have first := holds_overrideLayout writable parameters
    have second := holds_implementationLayout writable each
    exact ⟨(first.congr rfl own).split_text (List.cons_ne_nil _ _),
      (second.congr rfl (by omega)).split_text (List.cons_ne_nil _ _)⟩

namespace Example

/-- A parameter of type int. -/
def number (name : String) : Parameter :=
  ⟨⟨{ name, type := "int" }, "Page"⟩, "Parameter"⟩

/-- A class without namespace and type parameters. -/
def plain : ClassInfo := ⟨"Page", "", .classKind, [], ["Page"]⟩

/-- A class in a namespace, with a type parameter whose name ends in a line end. -/
def ending : ClassInfo := ⟨"Page", "Shop.Pages", .classKind, ["T\n"], ["Shop.Pages.Page"]⟩

theorem writable_number {name : String} (h : isIdentifier name.toList = true) :
    Writable (number name) := by
  have typed : isTypeText "int" := ⟨by decide, by decide⟩
  exact ⟨h, typed⟩

theorem writable_plain : plain.Writable :=
  ⟨.inl rfl, by decide, by decide⟩

theorem writable_ending : ending.Writable :=
  ⟨.inr (by decide), by decide, by decide⟩

end Example

/-- A type parameter and a parameter that end in line ends make the override one line longer, and
the implementation three. -/
theorem emit_lineEnds_ending :
    ∃ override implementation,
      emit Example.ending [Example.number "Name\n", Example.number "Size"] =
          .ok (override, implementation) ∧
        Brings override.content 20 ∧ Brings implementation.content 38 ∧
        ¬ EndNoLine Example.ending [Example.number "Name\n", Example.number "Size"] := by
  have each : ∀ parameter ∈ [Example.number "Name\n", Example.number "Size"], Writable parameter :=
    List.forall_mem_cons.mpr ⟨Example.writable_number (by decide),
      List.forall_mem_singleton.mpr (Example.writable_number (by decide))⟩
  have emitted := emit_eq_ok_iff.mpr ⟨Example.writable_ending, each, rfl⟩
  obtain ⟨overriding, implementing, -⟩ := emit_lineEnds emitted
  exact ⟨_, _, emitted, overriding, implementing, by decide⟩

/-- The check of names passes over a line end, and the dispatcher of one parameter has two lines
more than its layout. -/
theorem emit_passes_lineEnd :
    ∃ override implementation,
      emit Example.plain [Example.number "Name\n"] = .ok (override, implementation) ∧
        lineEnds implementation.content = 28 ∧
        lineEnds implementation.content ≠
          20 + 6 * [Example.number "Name\n"].length + Example.plain.namespaceLines := by
  have each : ∀ parameter ∈ [Example.number "Name\n"], Writable parameter :=
    List.forall_mem_singleton.mpr (Example.writable_number (by decide))
  have count := (brings_implementationText Example.writable_plain each).lineEnds
  have other : 28 ≠ 20 + 6 * [Example.number "Name\n"].length + Example.plain.namespaceLines := by
    decide
  exact ⟨_, _, emit_eq_ok_iff.mpr ⟨Example.writable_plain, each, rfl⟩, count, count ▸ other⟩

end ComponentPasses.Dispatch

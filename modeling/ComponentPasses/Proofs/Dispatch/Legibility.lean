import ComponentPasses.Proofs.Dispatch.Routing
import ComponentPasses.Proofs.Source.Legibility
import Mathlib.Data.List.Forall2

/-!
# What the text of an implementation tells

Nothing of a plan is lost in the text of its implementation, besides the names of the artifacts.
Each name and type is ended by what comes after it: a header by the brace of its block, a label by
its closing quote, a target by a blank, and a type by the bracket of the cast.  The arms of a tier
end where a line begins with `default` and not with `case`.  And the first letter after the imports
tells whether there is a namespace.  So the text tells the namespace, the header of the class and
both tiers (`legible_implementationLayout`).

With the tiers it tells the parameters: there is one arm in each tier for each of them, in order,
and the label of an arm is the literal of a name (`emit_legible`).
-/

namespace ComponentPasses.Dispatch

open Source
open Source.Layout (ended linesOfAll linesOfAll_append ended_append ended_flatMap begins_line
  begins_block)

/-! ## 1. Arms -/

/-- Whether each part of an arm is ended by what comes after it. -/
structure Arm.Delimited (arm : Arm) : Prop where
  label : ∃ s, arm.label = stringLiteral s
  target : ' ' ∉ arm.target.toList
  castType : ')' ∉ arm.castType.toList

theorem legible_label : Legible Arm.Delimited (fun arm => arm.label.toList) (·.label) := by
  intro arm arm' delimited delimited' s t same
  obtain ⟨name, label⟩ := delimited.label
  obtain ⟨name', label'⟩ := delimited'.label
  simp only [label, label'] at same
  obtain ⟨content, rest⟩ := legible_stringLiteral name name' trivial trivial s t same
  exact ⟨label.trans ((congrArg stringLiteral content).trans label'.symm), rest⟩

section Arms

/-- The characters of an arm, cut where its parts end. -/
theorem ended_armLayout (level : Nat) (arm : Arm) :
    ended (linesOfAll level (armLayout arm)) =
      (Writer.indent level).toList ++ ("case ".toList ++ (arm.label.toList ++
        (":\n".toList ++ (Writer.indent (level + 1)).toList ++ "this.".toList ++
          ((arm.target.toList ++ [' ']) ++ ("= (".toList ++ ((arm.castType.toList ++ [')']) ++
            ("value;\n".toList ++ (Writer.indent (level + 1)).toList ++
              "break;\n".toList))))))) := by
  have label : "case " ++ arm.label ++ ":" ≠ "" := fun empty =>
    absurd (String.append_eq_empty_iff.mp empty).2 (by decide)
  have assignment : "this." ++ arm.target ++ " = (" ++ arm.castType ++ ")value;" ≠ "" :=
    fun empty => absurd (String.append_eq_empty_iff.mp empty).2 (by decide)
  have leave : "break;" ≠ "" := by decide
  simp [armLayout, linesOfAll, Layout.linesAt, ended, indentLine_of_ne label,
    indentLine_of_ne assignment, indentLine_of_ne leave]

/-- An arm tells its parts, and where it ends. -/
theorem legible_armLayout (level : Nat) :
    Legible Arm.Delimited (fun arm => ended (linesOfAll level (armLayout arm))) id := by
  simp only [ended_armLayout]
  have target : Legible Arm.Delimited (fun arm => arm.target.toList ++ [' ']) (·.target.toList) :=
    .upTo fun _ delimited => delimited.target
  have castType :
      Legible Arm.Delimited (fun arm => arm.castType.toList ++ [')']) (·.castType.toList) :=
    .upTo fun _ delimited => delimited.castType
  refine (((legible_label.append ((target.append
    ((castType.append_const _).const_append _)).const_append _)).const_append _).const_append
      _).of_key ?_
  rintro ⟨label, target, castType⟩ ⟨label', target', castType'⟩ - - same
  simp only [Prod.mk.injEq, String.toList_inj] at same
  obtain ⟨rfl, rfl, rfl⟩ := same
  rfl

/-- The arms of a tier end where the default of the switch begins. -/
theorem legible_tier {α β : Type} {passes : α → Prop} {arms : α → List Arm}
    {last : α → List Layout} {key : α → β}
    (delimited : ∀ a, passes a → ∀ arm ∈ arms a, arm.Delimited)
    (begins : ∀ level a, ∃ more,
      ended (linesOfAll level (last a)) = (Writer.indent level).toList ++ 'd' :: more)
    (legible : Layout.Legible passes last key) :
    Layout.Legible passes (fun a => (arms a).flatMap armLayout ++ last a)
      fun a => (arms a, key a) := by
  intro level a b passed passed' s t same
  obtain ⟨more, ends⟩ := begins level a
  obtain ⟨more', ends'⟩ := begins level b
  simp only [linesOfAll_append, ended_append, ended_flatMap, ends, ends',
    List.append_assoc, List.cons_append] at same
  have starts : ∀ arm, ∃ rest,
      ended (linesOfAll level (armLayout arm)) = (Writer.indent level).toList ++ 'c' :: rest :=
    fun arm => ⟨_, ended_armLayout level arm⟩
  obtain ⟨tiers, rest⟩ := (legible_armLayout level).run (by decide) starts (arms a) (arms b)
    (delimited a passed) (delimited b passed') _ _ same
  have after : ended (linesOfAll level (last a)) ++ s = ended (linesOfAll level (last b)) ++ t := by
    rw [ends, ends', List.append_assoc, List.append_assoc, List.cons_append, List.cons_append, rest]
  obtain ⟨keys, rest⟩ := legible level a b passed passed' s t after
  rw [List.map_id, List.map_id] at tiers
  exact ⟨Prod.ext tiers keys, rest⟩

end Arms

/-! ## 2. Plans -/

/-- Whether each part of a plan is ended by what comes after it. -/
structure Plan.Delimited (plan : Plan) : Prop where
  enclosing : '\x7b' ∉ plan.enclosing.toList
  typeHeader : '\x7b' ∉ plan.typeHeader.toList
  exactArms : ∀ arm ∈ plan.exactArms, arm.Delimited
  loweredArms : ∀ arm ∈ plan.loweredArms, arm.Delimited

section Plans

variable {β : Type} {body : Plan → List Layout} {key : Plan → β}

/-- The two tiers, one inside the other, tell their arms. -/
theorem legible_exactSwitch :
    Layout.Legible Plan.Delimited (fun plan => [exactSwitch plan.exactArms plan.loweredArms])
      fun plan => (plan.exactArms, plan.loweredArms) := by
  have nothing : Layout.Legible Plan.Delimited (fun _ => [.line "default:",
      .indented [.line "throw new ArgumentException($\"Unknown parameter: \x7bname\x7d\");"]])
      fun _ => () :=
    fun level _ _ _ _ s t same => ⟨rfl, List.append_cancel_left same⟩
  have inner : Layout.Legible Plan.Delimited (fun plan => [loweredSwitch plan.loweredArms])
      fun plan => (plan.loweredArms, ()) :=
    (legible_tier (fun _ delimited => delimited.loweredArms)
      (fun level _ => begins_line rfl level _)
      nothing).fixedBlock (by decide) (by decide)
  have default : Layout.Legible Plan.Delimited
      (fun plan => [.block (some "default:") [loweredSwitch plan.loweredArms, .line "break;"]])
      fun plan => (plan.loweredArms, ()) :=
    (inner.append_const [.line "break;"]).fixedBlock (by decide) (by decide)
  have outer : Layout.Legible Plan.Delimited
      (fun plan => [exactSwitch plan.exactArms plan.loweredArms])
      fun plan => (plan.exactArms, plan.loweredArms, ()) :=
    (legible_tier (fun _ delimited => delimited.exactArms)
      (fun level _ => begins_block rfl level _ _) default).fixedBlock (by decide) (by decide)
  exact outer.of_key fun _ _ _ _ same => by
    simp only [Prod.mk.injEq] at same ⊢
    exact ⟨same.1, same.2.1⟩

theorem toList_typeHeader (plan : Plan) : ∃ rest, plan.typeHeader.toList = 'p' :: rest := by
  have first : "public partial ".toList.head? = some 'p' := by decide
  obtain ⟨more, front⟩ := List.head?_eq_some_iff.mp first
  unfold Plan.typeHeader
  simp only [String.append_assoc, String.toList_append, front, List.cons_append]
  exact ⟨_, rfl⟩

/-- The first letter tells whether there is a namespace. -/
theorem begins_inType (level : Nat) (plan : Plan) (body : List Layout) : ∃ more,
    ended (linesOfAll level (inType plan body)) =
      (Writer.indent level).toList ++ (if plan.enclosing = "" then 'p' else 'n') :: more := by
  rw [inType]
  split
  · obtain ⟨rest, begun⟩ := toList_typeHeader plan
    exact begins_block begun level _ _
  · have first : "namespace ".toList.head? = some 'n' := by decide
    obtain ⟨more, front⟩ := List.head?_eq_some_iff.mp first
    have begun : ("namespace " ++ plan.enclosing).toList =
        'n' :: (more ++ plan.enclosing.toList) := by
      rw [String.toList_append, front, List.cons_append]
    exact begins_block begun level _ _

/-- What stands around the body of a class tells the namespace and the header of the class. -/
theorem legible_inType (legible : Layout.Legible Plan.Delimited body key) :
    Layout.Legible Plan.Delimited (fun plan => inType plan (body plan))
      fun plan => (plan.enclosing, plan.typeHeader, key plan) := by
  have someType : ∀ plan : Plan, plan.typeHeader ≠ "" := fun plan empty => by
    obtain ⟨rest, begun⟩ := toList_typeHeader plan
    rw [empty] at begun
    cases begun
  have someSpace : ∀ plan : Plan, "namespace " ++ plan.enclosing ≠ "" := fun plan empty =>
    absurd (String.append_eq_empty_iff.mp empty).1 (by decide)
  have freeSpace : ∀ plan : Plan, plan.Delimited →
      '\x7b' ∉ ("namespace " ++ plan.enclosing).toList := by
    intro plan delimited mem
    rw [String.toList_append] at mem
    exact (List.mem_append.mp mem).elim (absurd · (by decide)) delimited.enclosing
  have typed : Layout.Legible Plan.Delimited
      (fun plan => [.block (some plan.typeHeader) (body plan)])
      fun plan => (plan.typeHeader, key plan) :=
    legible.block (fun plan _ => someType plan) fun _ delimited => delimited.typeHeader
  have named : Layout.Legible Plan.Delimited
      (fun plan => [.block (some ("namespace " ++ plan.enclosing))
        [.block (some plan.typeHeader) (body plan)]])
      fun plan => ("namespace " ++ plan.enclosing, plan.typeHeader, key plan) :=
    typed.block (fun plan _ => someSpace plan) freeSpace
  intro level plan plan' delimited delimited' s t same
  dsimp only at same
  have alike : plan.enclosing = "" ↔ plan'.enclosing = "" := by
    obtain ⟨more, begins⟩ := begins_inType level plan (body plan)
    obtain ⟨more', begins'⟩ := begins_inType level plan' (body plan')
    rw [begins, begins', List.append_assoc, List.append_assoc] at same
    have letter := (List.cons.inj (List.append_cancel_left same)).1
    by_cases none : plan.enclosing = "" <;> by_cases none' : plan'.enclosing = "" <;>
      simp [none, none'] at letter ⊢
  by_cases none : plan.enclosing = ""
  · have none' := alike.mp none
    rw [inType, inType, if_pos none, if_pos none'] at same
    obtain ⟨keys, rest⟩ := typed level plan plan' delimited delimited' s t same
    exact ⟨Prod.ext (none.trans none'.symm) keys, rest⟩
  · rw [inType, inType, if_neg none, if_neg (mt alike.mpr none)] at same
    obtain ⟨keys, rest⟩ := named level plan plan' delimited delimited' s t same
    obtain ⟨space, keys⟩ := Prod.mk.inj keys
    have spaces := congrArg String.toList space
    rw [String.toList_append, String.toList_append] at spaces
    exact ⟨Prod.ext (String.toList_inj.mp (List.append_cancel_left spaces)) keys, rest⟩

/-- The implementation tells the namespace, the header of the class and both tiers. -/
theorem legible_implementationLayout :
    Layout.Legible Plan.Delimited implementationLayout
      fun plan => (plan.enclosing, plan.typeHeader, plan.exactArms, plan.loweredArms) := by
  have method : Layout.Legible Plan.Delimited
      (fun plan =>
        [.block (some ("private void " ++ dispatcherMethod ++ "(string name, object value)"))
          [exactSwitch plan.exactArms plan.loweredArms]])
      fun plan => (plan.exactArms, plan.loweredArms) :=
    legible_exactSwitch.fixedBlock (by decide) (by decide)
  exact (legible_inType method).const_append [.line "using System;", .blank]

end Plans

/-! ## 3. Plans of classes -/

section Written

variable {info : ClassInfo} {parameters : List Parameter}

theorem delimited_armFor {parameter : Parameter} (writable : Writable parameter) (label : String) :
    (armFor label parameter).Delimited where
  label := ⟨label, rfl⟩
  target mem := by
    rcases mem_of_isIdentifier (isIdentifier_writtenName writable.1) mem with lineEnd | word
    · exact absurd lineEnd (by decide)
    · exact absurd word (by decide)
  castType mem := by
    have typed := List.all_eq_true.mp writable.2.2 _ mem
    exact absurd typed (by decide)

theorem delimited_planOf (writable : info.Writable)
    (each : ∀ parameter ∈ parameters, Writable parameter) :
    (planOf info parameters).Delimited where
  enclosing mem := by
    by_cases global : info.enclosing = ""
    · rw [planOf, if_pos global] at mem
      exact absurd mem List.not_mem_nil
    · rw [planOf, if_neg global] at mem
      have named := writable.enclosing.resolve_left global
      have header := isHeaderChar_of_mem_writtenNamespace named _ mem
      exact absurd header (by decide)
  typeHeader mem := by
    obtain ⟨rest, plain, header⟩ := exists_typeHeader_eq writable parameters
    rw [header, String.toList_append] at mem
    rcases List.mem_append.mp mem with mem | mem
    · exact absurd mem (by decide)
    · exact absurd (plain _ mem) (by decide)
  exactArms := List.forall_mem_map.mpr fun parameter present =>
    delimited_armFor (each parameter present) _
  loweredArms := List.forall_mem_map.mpr fun parameter present =>
    delimited_armFor (each parameter present) _

/-- Whether an arm is the one of a parameter under a label. -/
structure IsArmOf (label : String) (parameter : Parameter) (arm : Arm) : Prop where
  label : arm.label = stringLiteral label
  target : escapeIdentifier parameter.name = .ok arm.target
  castType : escapeType parameter.type = .ok arm.castType

/-- Whether a plan has one arm for each parameter in each tier, in the order of the parameters. -/
structure Plan.InStep (plan : Plan) (parameters : List Parameter) : Prop where
  exactArms : List.Forall₂ (fun parameter => IsArmOf parameter.name parameter) parameters
    plan.exactArms
  loweredArms : List.Forall₂ (fun parameter => IsArmOf parameter.loweredName parameter) parameters
    plan.loweredArms

theorem isArmOf_armFor {parameter : Parameter} (writable : Writable parameter) (label : String) :
    IsArmOf label parameter (armFor label parameter) where
  label := rfl
  target := (checks_escapeIdentifier _ _).mpr ⟨writable.1, rfl⟩
  castType := (checks_escapeType _ _).mpr ⟨writable.2, rfl⟩

theorem inStep_planOf (info : ClassInfo) (each : ∀ parameter ∈ parameters, Writable parameter) :
    (planOf info parameters).InStep parameters where
  exactArms := List.forall₂_map_right_iff.mpr <| List.forall₂_same.mpr fun parameter present =>
    isArmOf_armFor (each parameter present) _
  loweredArms := List.forall₂_map_right_iff.mpr <| List.forall₂_same.mpr fun parameter present =>
    isArmOf_armFor (each parameter present) _

/-- What of a parameter goes into the source: its name, and its type without blanks around it. -/
def writtenParts (parameter : Parameter) : String × String :=
  (parameter.name, Text.trim parameter.type)

/-- The arm of the first tier, from what of a parameter goes into the source. -/
def exactArm (parts : String × String) : Arm :=
  ⟨stringLiteral parts.1, writtenName parts.1, parts.2⟩

theorem exactArm_injective : exactArm.Injective := by
  rintro ⟨name, type⟩ ⟨name', type'⟩ same
  obtain ⟨labels, -, types⟩ := Arm.mk.inj same
  exact Prod.ext (stringLiteral_injective labels) types

/-- The arms of the first tier tell the parameters. -/
theorem map_writtenParts_eq {parameters' : List Parameter}
    (same : (parameters.map fun parameter => armFor parameter.name parameter) =
      parameters'.map fun parameter => armFor parameter.name parameter) :
    parameters.map writtenParts = parameters'.map writtenParts := by
  have arms : ∀ parameters : List Parameter,
      (parameters.map fun parameter => armFor parameter.name parameter) =
        (parameters.map writtenParts).map exactArm := by
    intro parameters
    rw [List.map_map]
    rfl
  rw [arms, arms] at same
  exact List.map_injective_iff.mpr exactArm_injective same

end Written

/-- **The text of an implementation loses nothing.**  Two texts that are the same come from plans
with the same namespace, header and tiers.  A plan has one arm for each parameter in each tier, in
order, so the parameters are the same too, up to blanks around their types. -/
theorem emit_legible {info info' : ClassInfo} {parameters parameters' : List Parameter}
    {override override' implementation implementation' : Artifact}
    (emitted : emit info parameters = .ok (override, implementation))
    (emitted' : emit info' parameters' = .ok (override', implementation'))
    (same : implementation.content = implementation'.content) :
    ∃ plan plan',
      (Plan.build info parameters = .ok plan ∧ implementation.content = implementationText plan ∧
        plan.InStep parameters) ∧
      (Plan.build info' parameters' = .ok plan' ∧
        implementation'.content = implementationText plan' ∧ plan'.InStep parameters') ∧
      plan.enclosing = plan'.enclosing ∧ plan.typeHeader = plan'.typeHeader ∧
      plan.exactArms = plan'.exactArms ∧ plan.loweredArms = plan'.loweredArms ∧
      parameters.map writtenParts = parameters'.map writtenParts := by
  obtain ⟨writable, each, pair⟩ := emit_eq_ok_iff.mp emitted
  obtain ⟨writable', each', pair'⟩ := emit_eq_ok_iff.mp emitted'
  obtain ⟨rfl, rfl⟩ := Prod.mk.inj pair
  obtain ⟨rfl, rfl⟩ := Prod.mk.inj pair'
  have told := legible_implementationLayout.text_inj (delimited_planOf writable each)
    (delimited_planOf writable' each') (List.cons_ne_nil _ _) (List.cons_ne_nil _ _) same
  obtain ⟨enclosing, told⟩ := Prod.mk.inj told
  obtain ⟨header, told⟩ := Prod.mk.inj told
  obtain ⟨exactArms, loweredArms⟩ := Prod.mk.inj told
  exact ⟨planOf info parameters, planOf info' parameters',
    ⟨build_eq_ok_iff.mpr ⟨writable, each, rfl⟩, rfl, inStep_planOf info each⟩,
    ⟨build_eq_ok_iff.mpr ⟨writable', each', rfl⟩, rfl, inStep_planOf info' each'⟩,
    enclosing, header, exactArms, loweredArms, map_writtenParts_eq exactArms⟩

namespace Example

/-- The class of a page whose hierarchy is longer. -/
def derivedPage : ClassInfo := { page with hierarchy := ["Shop.Page", "Shop.Base"] }

/-- A parameter that is declared twice. -/
def redeclared : List Parameter := [parameter "Title" "string", parameter "Title" "string"]

/-- The same parameters with blanks around their types. -/
def spacedRedeclared : List Parameter :=
  [parameter "Title" " string", parameter "Title" "string "]

end Example

/-- The text does not tell the hierarchy of a class, or the blanks around types, but that a
parameter is declared twice. -/
theorem emit_legible_redeclared :
    ∃ artifacts artifacts', emit Example.page Example.redeclared = .ok artifacts ∧
      emit Example.derivedPage Example.spacedRedeclared = .ok artifacts' ∧
      artifacts.2.content = artifacts'.2.content ∧
      Example.redeclared.map writtenParts = Example.spacedRedeclared.map writtenParts ∧
      Example.redeclared.map writtenParts = [("Title", "string"), ("Title", "string")] := by
  have each : ∀ parameter ∈ Example.redeclared, Writable parameter :=
    List.forall_mem_cons.mpr ⟨⟨by decide, by decide, by decide⟩,
      List.forall_mem_singleton.mpr ⟨by decide, by decide, by decide⟩⟩
  have each' : ∀ parameter ∈ Example.spacedRedeclared, Writable parameter :=
    List.forall_mem_cons.mpr ⟨⟨by decide, by decide, by decide⟩,
      List.forall_mem_singleton.mpr ⟨by decide, by decide, by decide⟩⟩
  have writable' : Example.derivedPage.Writable :=
    ⟨.inr (by decide), by decide, by decide⟩
  have emitted := emit_eq_ok_iff.mpr ⟨Example.writable_page, each, rfl⟩
  have emitted' := emit_eq_ok_iff.mpr ⟨writable', each', rfl⟩
  have plans : planOf Example.page Example.redeclared =
      planOf Example.derivedPage Example.spacedRedeclared := by
    have front : Text.trim " string" = Text.trim "string" := by decide
    have back : Text.trim "string " = Text.trim "string" := by decide
    have arm : ∀ label type type', Text.trim type = Text.trim type' →
        armFor label (Example.parameter "Title" type) =
          armFor label (Example.parameter "Title" type') :=
      fun _ _ _ same => congrArg (Arm.mk _ _) same
    simp only [planOf, Example.redeclared, Example.spacedRedeclared, List.map_cons, List.map_nil,
      arm _ _ _ front, arm _ _ _ back]
    rfl
  have same := congrArg implementationText plans
  obtain ⟨_, _, -, -, -, -, -, -, parts⟩ := emit_legible emitted emitted' same
  exact ⟨_, _, emitted, emitted', same, parts, by decide⟩

end ComponentPasses.Dispatch

import ComponentPasses.Proofs.Conflict
import ComponentPasses.Proofs.Dispatch.Reading

/-!
# Where an incoming name goes

A dispatcher that is emitted for parameters without conflicts sends every incoming name where it
belongs (`emit_routes`).  The name of a parameter is caught by the first switch.  Any other name
falls through to the second, which looks at it in lower case; there it meets the one parameter with
that lowered name, or none, and then it is refused.

The first switch cannot take away a name from a parameter that the second would find: the name it
catches is that of a parameter, so it is in ASCII, and its lowered name is the one the second switch
would look for (`name_eq_of_lower_eq`).  Distinct lowered names make it the same parameter.
-/

namespace ComponentPasses.Dispatch

open Source

/-! ## 1. The program of a dispatcher -/

section Tiers

variable (labelOf : Parameter → String) {parameters : List Parameter} {last : List Item}
  {incoming : Incoming}

/-- Assigning the member of a parameter. -/
def assignment (parameter : Parameter) : Effect :=
  .assigned (memberOf parameter.name) (typeTokens parameter.type)

/-- The labels of a switch are those of the parameters, then the default. -/
theorem labels_tierItems (noLabel : last.filterMap Item.label? = []) :
    (tierItems labelOf parameters last).filterMap Item.label? =
      (parameters.map labelOf).map some ++ [none] := by
  have arms : (parameters.flatMap (armItems labelOf)).filterMap Item.label? =
      (parameters.map labelOf).map some := by
    induction parameters with
    | nil => rfl
    | cons parameter rest ih =>
      rw [List.flatMap_cons, List.filterMap_append, ih]
      rfl
  rw [tierItems, List.filterMap_append, arms]
  exact congrArg (List.map some _ ++ none :: ·) noLabel

/-- A switch finds its value among the labels of the parameters, or nowhere. -/
theorem soughtLabel_tierItems (value : String) (noLabel : last.filterMap Item.label? = []) :
    soughtLabel value (tierItems labelOf parameters last) =
      if value ∈ parameters.map labelOf then some value else none := by
  rw [soughtLabel, labels_tierItems labelOf noLabel]
  simp

/-- While the default is sought, the sections of the parameters are passed over. -/
theorem runItems_default (passed : Nat) (rest : List Item) :
    runItems incoming (some none) passed (parameters.flatMap (armItems labelOf) ++ rest) =
      runItems incoming (some none) (passed + parameters.length) rest := by
  induction parameters generalizing passed with
  | nil => rfl
  | cons parameter others ih =>
    rw [List.flatMap_cons, List.append_assoc]
    simp only [armItems, List.cons_append, List.nil_append, runItems, Item.label?, reduceCtorEq,
      if_false]
    rw [ih, List.length_cons]
    congr 1
    omega

/-- The section of a parameter is entered where its label is sought and no other has the label. -/
theorem runItems_arm {i : Nat} {parameter : Parameter}
    (distinct : (parameters.map labelOf).Nodup) (placed : parameters[i]? = some parameter)
    (passed : Nat) (rest : List Item) :
    runItems incoming (some (some (labelOf parameter))) passed
        (parameters.flatMap (armItems labelOf) ++ rest) =
      ⟨[.entered (passed + i), assignment parameter], .left⟩ := by
  induction parameters generalizing i passed with
  | nil => simp at placed
  | cons first others ih =>
    obtain ⟨apart, distinct⟩ := List.nodup_cons.mp distinct
    rw [List.flatMap_cons, List.append_assoc]
    cases i with
    | zero =>
      obtain rfl : first = parameter := by simpa using placed
      simp only [armItems, List.cons_append, runItems, Item.label?, if_true]
      rfl
    | succ i =>
      have placed : others[i]? = some parameter := by simpa using placed
      have other : labelOf first ≠ labelOf parameter := by
        intro same
        exact apart (List.mem_map.mpr ⟨parameter, List.mem_of_getElem? placed, same.symm⟩)
      simp only [armItems, List.cons_append, List.nil_append, runItems, Item.label?,
        Option.some.injEq, other, if_false]
      rw [ih distinct placed]
      congr 3
      omega

/-- The sections of the parameters hold no switch. -/
theorem tiersOfAll_tierItems :
    Item.tiersOfAll (tierItems labelOf parameters last) = Item.tiersOfAll last := by
  induction parameters with
  | nil => rfl
  | cons parameter rest ih => exact ih

variable (noLabel : last.filterMap Item.label? = [])
include noLabel

/-- A switch whose value is the label of a parameter, and of no other, runs the section of that
parameter and is left. -/
theorem run_tierItems_of_label {i : Nat} {parameter : Parameter}
    (distinct : (parameters.map labelOf).Nodup) (placed : parameters[i]? = some parameter) :
    runItems incoming
        (some (soughtLabel (labelOf parameter) (tierItems labelOf parameters last))) 0
        (tierItems labelOf parameters last) =
      ⟨[.entered i, assignment parameter], .left⟩ := by
  have present : labelOf parameter ∈ parameters.map labelOf :=
    List.mem_map_of_mem (List.mem_of_getElem? placed)
  rw [soughtLabel_tierItems labelOf _ noLabel, if_pos present, tierItems,
    runItems_arm labelOf distinct placed, Nat.zero_add]

/-- A switch whose value is the label of no parameter goes on at its default. -/
theorem run_tierItems_of_not_label {value : String} (absent : value ∉ parameters.map labelOf) :
    runItems incoming (some (soughtLabel value (tierItems labelOf parameters last))) 0
        (tierItems labelOf parameters last) =
      (runItems incoming none (parameters.length + 1) last).after
        (.entered parameters.length) := by
  rw [soughtLabel_tierItems labelOf _ noLabel, if_neg absent, tierItems, runItems_default,
    Nat.zero_add]
  rfl

end Tiers

/-- The two switches look at the name and the lowered name, and have the labels of either. -/
theorem tiers_dispatcherProgram (parameters : List Parameter) :
    Item.tiersOfAll (dispatcherProgram parameters) =
      [(.name, parameters.map (·.name)), (.loweredName, parameters.map (·.loweredName))] := by
  have inner : (innerItems parameters).filterMap Item.label? =
      (parameters.map (·.loweredName)).map some ++ [none] := labels_tierItems _ rfl
  have outer : (outerItems parameters).filterMap Item.label? =
      (parameters.map (·.name)).map some ++ [none] := labels_tierItems _ rfl
  simp only [dispatcherProgram, Item.tiersOfAll, Item.tiers, outer]
  simp only [outerItems, tiersOfAll_tierItems, Item.tiersOfAll, Item.tiers, inner]
  simp only [innerItems, tiersOfAll_tierItems, Item.tiersOfAll, Item.tiers]
  simp

section Program

variable {lower : String → String} {parameters : List Parameter} {i : Nat} {parameter : Parameter}
  {name : String}

/-- A name that a parameter has is caught by the first switch. -/
theorem runProgram_of_name (distinct : (parameters.map (·.name)).Nodup)
    (placed : parameters[i]? = some parameter) :
    runProgram lower (dispatcherProgram parameters) parameter.name =
      ⟨[.entered i, assignment parameter], .onward⟩ := by
  have outer : runItems ⟨parameter.name, lower parameter.name⟩
      (some (soughtLabel parameter.name (outerItems parameters))) 0 (outerItems parameters) = _ :=
    run_tierItems_of_label (·.name) rfl distinct placed
  rw [runProgram, dispatcherProgram]
  simp only [runItems, runItem, Item.label?, Incoming.value, outer]
  rfl

/-- A name that no parameter has goes to the second switch, whatever comes of it there. -/
theorem runProgram_of_not_name (absent : name ∉ parameters.map (·.name)) {inner : Outcome}
    (run : runItems ⟨name, lower name⟩
      (some (soughtLabel (lower name) (innerItems parameters))) 0 (innerItems parameters) = inner) :
    runProgram lower (dispatcherProgram parameters) name =
      ((((inner.outOfSwitch.andThen (.andThen ⟨[], .left⟩ .nothing)).andThen .nothing).after
        (.entered parameters.length)).outOfSwitch).andThen .nothing := by
  have outer : runItems ⟨name, lower name⟩
      (some (soughtLabel name (outerItems parameters))) 0 (outerItems parameters) = _ :=
    run_tierItems_of_not_label (·.name) rfl absent
  rw [runProgram, dispatcherProgram]
  simp only [runItems, runItem, Item.label?, Incoming.value, outer, run]

/-- A name that no parameter has, but that is the lowered name of one in lower case, is caught by
the second switch. -/
theorem runProgram_of_loweredName (absent : name ∉ parameters.map (·.name))
    (distinct : (parameters.map (·.loweredName)).Nodup)
    (placed : parameters[i]? = some parameter) (same : lower name = parameter.loweredName) :
    runProgram lower (dispatcherProgram parameters) name =
      ⟨[.entered parameters.length, .entered i, assignment parameter], .onward⟩ := by
  have inner : runItems ⟨name, lower name⟩
      (some (soughtLabel (lower name) (innerItems parameters))) 0 (innerItems parameters) =
        ⟨[.entered i, assignment parameter], .left⟩ := by
    rw [same]
    exact run_tierItems_of_label (·.loweredName) rfl distinct placed
  rw [runProgram_of_not_name absent inner]
  rfl

/-- A name that is neither goes to the default of the second switch and is refused. -/
theorem runProgram_of_unknown (absent : name ∉ parameters.map (·.name))
    (absent' : lower name ∉ parameters.map (·.loweredName)) :
    runProgram lower (dispatcherProgram parameters) name =
      ⟨[.entered parameters.length, .entered parameters.length, .raised "ArgumentException"],
        .raised⟩ := by
  have inner : runItems ⟨name, lower name⟩
      (some (soughtLabel (lower name) (innerItems parameters))) 0 (innerItems parameters) =
        ⟨[.entered parameters.length, .raised "ArgumentException"], .raised⟩ :=
    run_tierItems_of_not_label (·.loweredName) rfl absent'
  rw [runProgram_of_not_name absent inner]
  rfl

end Program

/-! ## 2. The dispatcher that is emitted -/

/-- Putting text in lower case in whatever way, but in ASCII as usual. -/
def LowersAscii (lower : String → String) : Prop :=
  ∀ s, (∀ c ∈ s.toList, c.toNat < 128) → lower s = Text.lowercase s

section Emitted

variable {lower : String → String} {parameters : List Parameter} {i : Nat}
  {parameter : Parameter}

/-- Parameters with distinct lowered names have distinct names. -/
theorem nodup_name (distinct : (parameters.map (·.loweredName)).Nodup) :
    (parameters.map (·.name)).Nodup := by
  have lowered : parameters.map (·.loweredName) =
      (parameters.map (·.name)).map Text.lowercase := by
    rw [List.map_map]
    rfl
  rw [lowered] at distinct
  exact distinct.of_map

/-- The name of a parameter that is the lowered name of another one in lower case is that other
one's name. -/
theorem name_eq_of_lower_eq (ascii : LowersAscii lower)
    (each : ∀ parameter ∈ parameters, Writable parameter)
    (distinct : (parameters.map (·.loweredName)).Nodup) (present : parameter ∈ parameters)
    {name : String} (caught : name ∈ parameters.map (·.name))
    (same : lower name = parameter.loweredName) : name = parameter.name := by
  obtain ⟨other, known, rfl⟩ := List.mem_map.mp caught
  rw [ascii _ (toNat_lt_of_isIdentifier (each other known).1)] at same
  rw [List.inj_on_of_nodup_map distinct known present same]

end Emitted

/-- The dispatcher that is emitted for parameters without conflicts is a program of two switches
with distinct labels each.  A name that a parameter has, or whose lower case is the parameter's
lowered name, runs the section of that parameter and nothing else, from the first switch if it is
the name of a parameter and from the second if it is not.  Any other name passes both switches and
is refused. -/
theorem emit_routes {info : ClassInfo} {parameters : List Parameter} {pair : Artifact × Artifact}
    {lower : String → String} (ascii : LowersAscii lower)
    (emitted : emit info parameters = .ok pair)
    (free : ConflictGroup.ofParameters parameters = []) :
    ∃ program, programOf? pair.2.content = some program ∧
      Item.tiersOfAll program =
        [(.name, parameters.map (·.name)), (.loweredName, parameters.map (·.loweredName))] ∧
      (∀ tier ∈ Item.tiersOfAll program, tier.2.Nodup) ∧
      (∀ i parameter, parameters[i]? = some parameter → ∀ name,
        name = parameter.name ∨ lower name = parameter.loweredName →
          runProgram lower program name =
            if name = parameter.name then ⟨[.entered i, assignment parameter], .onward⟩
            else ⟨[.entered parameters.length, .entered i, assignment parameter], .onward⟩) ∧
      ∀ name, (∀ parameter ∈ parameters,
          name ≠ parameter.name ∧ lower name ≠ parameter.loweredName) →
        runProgram lower program name =
          ⟨[.entered parameters.length, .entered parameters.length, .raised "ArgumentException"],
            .raised⟩ := by
  obtain ⟨writable, each, rfl⟩ := emit_eq_ok_iff.mp emitted
  have distinct := (ofParameters_eq_nil_iff parameters).mp free
  have tiers := tiers_dispatcherProgram parameters
  refine ⟨dispatcherProgram parameters, programOf?_implementationText writable each, tiers, ?_, ?_,
    ?_⟩
  · rw [tiers]
    exact List.forall_mem_cons.mpr
      ⟨nodup_name distinct, List.forall_mem_cons.mpr ⟨distinct, List.forall_mem_nil _⟩⟩
  · intro i parameter placed name known
    have present := List.mem_of_getElem? placed
    split
    · rename_i itself
      rw [itself]
      exact runProgram_of_name (nodup_name distinct) placed
    · rename_i other
      have same := known.resolve_left other
      have absent : name ∉ parameters.map (·.name) :=
        fun caught => other (name_eq_of_lower_eq ascii each distinct present caught same)
      exact runProgram_of_loweredName absent distinct placed same
  · intro name unknown
    refine runProgram_of_unknown ?_ ?_
    · intro caught
      obtain ⟨parameter, present, named⟩ := List.mem_map.mp caught
      exact (unknown parameter present).1 named.symm
    · intro caught
      obtain ⟨parameter, present, named⟩ := List.mem_map.mp caught
      exact (unknown parameter present).2 named.symm

namespace Example

/-- A parameter of a class Page. -/
def parameter (name type : String) : Parameter :=
  ⟨⟨{ name, type }, "Shop.Page"⟩, "Parameter"⟩

/-- A class with a type parameter, in a namespace. -/
def page : ClassInfo := ⟨"Page", "Shop", .classKind, ["T"], ["Shop.Page"]⟩

/-- Two parameters, one of them named by a keyword. -/
def parameters : List Parameter := [parameter "Title" "string", parameter "class" "int?"]

theorem writable_page : page.Writable :=
  ⟨.inr (by decide), by decide, by decide⟩

theorem writable_parameters : ∀ parameter ∈ parameters, Writable parameter := by
  refine List.forall_mem_cons.mpr ⟨⟨by decide, by decide, by decide⟩,
    List.forall_mem_cons.mpr ⟨⟨by decide, by decide, by decide⟩, List.forall_mem_nil _⟩⟩

theorem loweredNames_parameters : parameters.map (·.loweredName) = ["title", "class"] := by
  have title : Text.lowercase "Title" = "title" := by decide +kernel
  have keyword : Text.lowercase "class" = "class" := by decide +kernel
  exact congrArg₂ (fun first second => [first, second]) title keyword

end Example

/-- Names in any case reach the two parameters, and others are refused. -/
theorem emit_routes_page :
    ∃ pair program, emit Example.page Example.parameters = .ok pair ∧
      ConflictGroup.ofParameters Example.parameters = [] ∧
      programOf? pair.2.content = some program ∧
      runProgram Text.lowercase program "Title" =
        ⟨[.entered 0, .assigned "Title" [.word "string"]], .onward⟩ ∧
      runProgram Text.lowercase program "CLASS" =
        ⟨[.entered 2, .entered 1, .assigned "class" [.word "int", .sign '?']], .onward⟩ ∧
      runProgram Text.lowercase program "Titles" =
        ⟨[.entered 2, .entered 2, .raised "ArgumentException"], .raised⟩ := by
  have emitted := emit_eq_ok_iff.mpr ⟨Example.writable_page, Example.writable_parameters, rfl⟩
  have free : ConflictGroup.ofParameters Example.parameters = [] := by
    rw [ofParameters_eq_nil_iff, Example.loweredNames_parameters]
    decide
  have ascii : LowersAscii Text.lowercase := fun _ _ => rfl
  have small : Text.lowercase "CLASS" = Text.lowercase "class" := by decide +kernel
  have other : Text.lowercase "Titles" = "titles" := by decide +kernel
  obtain ⟨program, read, -, -, known, unknown⟩ := emit_routes ascii emitted free
  refine ⟨_, program, emitted, free, read, ?_, ?_, ?_⟩
  · exact known 0 (Example.parameter "Title" "string") rfl "Title" (.inl rfl)
  · exact known 1 (Example.parameter "class" "int?") rfl "CLASS" (.inr small)
  · refine unknown "Titles" fun parameter present => ⟨?_, ?_⟩
    · have named : parameter.name ∈ ["Title", "class"] :=
        List.mem_map_of_mem (f := (·.name)) present
      intro same
      exact absurd (same ▸ named) (by decide)
    · have lowered := List.mem_map_of_mem (f := (·.loweredName)) present
      rw [Example.loweredNames_parameters] at lowered
      rw [other]
      intro same
      exact absurd (same ▸ lowered) (by decide)

end ComponentPasses.Dispatch

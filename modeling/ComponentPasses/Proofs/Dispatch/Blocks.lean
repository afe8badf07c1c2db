import ComponentPasses.Proofs.Dispatch.LineEnds
import ComponentPasses.Proofs.Dispatch.Reading
import ComponentPasses.Proofs.Source.Blocks

/-!
# The blocks of a dispatcher

Nothing that comes from outside opens or closes a block.  What is written for names and types has no
braces, quotes or slashes, and a label is a literal however its name is spelled.  So the blocks of
both texts are those of the layouts, and every brace in code is one that a block was opened or
closed with (`emit_blocks`).

Only a few lines are not all code: in the override the remark, and in the implementation the labels
of both tiers and the refusal of unknown names.
-/

namespace ComponentPasses.Dispatch

open Source
open Source.Layout (Free Framed free_line free_literalLine free_commentLine)

/-! ## 1. Lines that are not all code -/

/-- A label as it is read. -/
def labelLine (label : String) : List Lexeme :=
  Lexeme.literalLine "case " label ":"

/-- The refusal of unknown names as it is read. -/
def refusalLine : List Lexeme :=
  Lexeme.literalLine "throw new ArgumentException($" "Unknown parameter: \x7bname\x7d" ");"

/-- The remark on the lifecycle methods as it is read. -/
def remarkLine : List Lexeme :=
  [.comment " Run the normal lifecycle methods, but without assigning parameters again"]

theorem free_label (label : String) :
    Free [.line ("case " ++ stringLiteral label ++ ":")] [labelLine label] :=
  free_literalLine (by decide) (by decide) rfl

theorem free_refusal :
    Free [.line "throw new ArgumentException($\"Unknown parameter: \x7bname\x7d\");"]
      [refusalLine] := by
  have split : "throw new ArgumentException($\"Unknown parameter: \x7bname\x7d\");" =
      "throw new ArgumentException($" ++ stringLiteral "Unknown parameter: \x7bname\x7d" ++
        ");" := by
    decide
  rw [split]
  exact free_literalLine (by decide) (by decide) rfl

theorem free_remark :
    Free [.line "// Run the normal lifecycle methods, but without assigning parameters again"]
      [remarkLine] := by
  have split : "// Run the normal lifecycle methods, but without assigning parameters again" =
      "//" ++ " Run the normal lifecycle methods, but without assigning parameters again" := by
    decide
  rw [split]
  exact free_commentLine (by decide)

/-! ## 2. Arms -/

section Layouts

variable {info : ClassInfo} {parameters : List Parameter}

theorem isSilent_of_isHeaderChar {c : Char} (h : isHeaderChar c = true) : isSilent c = true :=
  isSilent_of h (by decide)

theorem isSilent_of_isTypeChar {c : Char} (h : isTypeChar c = true) : isSilent c = true :=
  isSilent_of h (by decide)

/-- Nothing in the name and the type of a parameter is more than code. -/
theorem free_arm {parameter : Parameter} (writable : Writable parameter) (label : String) :
    Free (armLayout (armFor label parameter)) [labelLine label] := by
  have name : (writtenName parameter.name).toList.all isSilent = true :=
    List.all_eq_true.mpr fun c hc =>
      isSilent_of_isHeaderChar (isHeaderChar_of_mem_writtenName writable.1 c hc)
  have type : (Text.trim parameter.type).toList.all isSilent = true :=
    List.all_eq_true.mpr fun c hc => isSilent_of_isTypeChar (List.all_eq_true.mp writable.2.2 c hc)
  have assignment : Free [.line ("this." ++ writtenName parameter.name ++ " = (" ++
      Text.trim parameter.type ++ ")value;")] [] :=
    free_line (all_isSilent_append (all_isSilent_append (all_isSilent_append
      (all_isSilent_append (by decide) name) (by decide)) type) (by decide))
  have leave : Free [.line "break;"] [] := free_line (by decide)
  exact (free_label label).append (assignment.append leave).indented

/-- A tier has a label for each parameter. -/
theorem free_tier (each : ∀ parameter ∈ parameters, Writable parameter)
    (labelOf : Parameter → String) :
    Free ((parameters.map fun parameter => armFor (labelOf parameter) parameter).flatMap armLayout)
      (parameters.map fun parameter => labelLine (labelOf parameter)) := by
  rw [List.flatMap_map, List.map_eq_flatMap]
  exact .flatMap fun parameter present => free_arm (each parameter present) _

theorem framed_exactSwitch {exact lowered : List Arm} {labels labels' : List (List Lexeme)}
    (first : Free (exact.flatMap armLayout) labels)
    (second : Free (lowered.flatMap armLayout) labels') :
    Framed [exactSwitch exact lowered] (labels ++ (labels' ++ [refusalLine])) := by
  have otherwise : Free [.line "default:"] [] := free_line (by decide)
  have leave : Free [.line "break;"] [] := free_line (by decide)
  have refusal := otherwise.append free_refusal.indented
  have inner : Framed [loweredSwitch lowered] (labels' ++ [refusalLine]) :=
    (second.append refusal).framed.block (by decide)
  have default : Framed [.block (some "default:") [loweredSwitch lowered, .line "break;"]]
      ((labels' ++ [refusalLine]) ++ []) :=
    (inner.append leave.framed).block (by decide)
  rw [List.append_nil] at default
  exact (first.framed.append default).block (by decide)

/-! ## 3. Classes -/

theorem all_isSilent_typeHeader (writable : info.Writable) (parameters : List Parameter) :
    (planOf info parameters).typeHeader.toList.all isSilent = true := by
  obtain ⟨rest, plain, header⟩ := exists_typeHeader_eq writable parameters
  rw [header]
  exact all_isSilent_append (by decide)
    (List.all_eq_true.mpr fun c hc => isSilent_of_isHeaderChar (plain c hc))

/-- A class frames its body, in the block of its namespace if it has one. -/
theorem framed_inType (writable : info.Writable) (parameters : List Parameter)
    {body : List Layout} {spoken : List (List Lexeme)} (framed : Framed body spoken) :
    Framed (inType (planOf info parameters) body) spoken := by
  have typed : Framed [.block (some (planOf info parameters).typeHeader) body] spoken :=
    framed.block (all_isSilent_typeHeader writable parameters)
  rw [inType]
  split
  · exact typed
  · rename_i named
    have inside : info.enclosing ≠ "" := fun global => named (if_pos global)
    have enclosing : (planOf info parameters).enclosing = writtenNamespace info.enclosing :=
      if_neg inside
    rw [enclosing]
    refine typed.block (all_isSilent_append (by decide) (List.all_eq_true.mpr fun c hc => ?_))
    exact isSilent_of_isHeaderChar
      (isHeaderChar_of_mem_writtenNamespace (writable.enclosing.resolve_left inside) c hc)

theorem framed_overrideLayout (writable : info.Writable) (parameters : List Parameter) :
    Framed (overrideLayout (planOf info parameters)) [remarkLine] := by
  have blank : Free [Layout.blank] [] := free_line rfl
  have components : Free [.line "using Microsoft.AspNetCore.Components;"] [] :=
    free_line (by decide)
  have tasks : Free [.line "using System.Threading.Tasks;"] [] :=
    free_line (by decide)
  have imports := components.append (tasks.append blank)
  have hand : Free [.line (dispatcherMethod ++ "(parameter.Name, parameter.Value);")] [] :=
    free_line (by decide)
  have loop : Framed [.block (some "foreach (var parameter in parameters)")
      [.line (dispatcherMethod ++ "(parameter.Name, parameter.Value);")]] [] :=
    hand.framed.block (by decide)
  have base : Free [.line "return base.SetParametersAsync(ParameterView.Empty);"] [] :=
    free_line (by decide)
  have rest := blank.append (free_remark.append base)
  have body : Framed
      [.block (some "public override Task SetParametersAsync(ParameterView parameters)") _] _ :=
    (loop.append rest.framed).block (by decide)
  exact imports.framed.append (framed_inType writable parameters body)

theorem framed_implementationLayout (writable : info.Writable)
    (each : ∀ parameter ∈ parameters, Writable parameter) :
    Framed (implementationLayout (planOf info parameters))
      ((parameters.map fun parameter => labelLine parameter.name) ++
        ((parameters.map fun parameter => labelLine parameter.loweredName) ++ [refusalLine])) := by
  have blank : Free [Layout.blank] [] := free_line rfl
  have system : Free [.line "using System;"] [] := free_line (by decide)
  have tiers := framed_exactSwitch (free_tier each (·.name)) (free_tier each (·.loweredName))
  have method : Framed
      [.block (some ("private void " ++ dispatcherMethod ++ "(string name, object value)")) _] _ :=
    tiers.block (by decide)
  exact (system.append blank).framed.append (framed_inType writable parameters method)

end Layouts

/-- **Nothing from outside opens or closes a block, or begins a literal or a comment.**  Both texts
are well framed.  Of their lines all are code but these: in the override the remark, and in the
implementation a label for each parameter in each tier, in order, and the refusal of other names. -/
theorem emit_blocks {info : ClassInfo} {parameters : List Parameter}
    {override implementation : Artifact}
    (emitted : emit info parameters = .ok (override, implementation)) :
    (∃ lines, WellFramed override.content lines ∧ Lexeme.spokenLines lines = [remarkLine]) ∧
      ∃ lines, WellFramed implementation.content lines ∧
        Lexeme.spokenLines lines =
          (parameters.map fun parameter => labelLine parameter.name) ++
            ((parameters.map fun parameter => labelLine parameter.loweredName) ++
              [refusalLine]) := by
  obtain ⟨writable, each, pair⟩ := emit_eq_ok_iff.mp emitted
  obtain ⟨rfl, rfl⟩ := Prod.mk.inj pair
  exact ⟨(framed_overrideLayout writable parameters).wellFramed (List.cons_ne_nil _ _),
    (framed_implementationLayout writable each).wellFramed (List.cons_ne_nil _ _)⟩

/-- Line ends in names change nothing about the blocks, and stand in the labels as escapes. -/
theorem emit_blocks_ending :
    ∃ override implementation,
      emit Example.ending [Example.number "Name\n", Example.number "Size"] =
          .ok (override, implementation) ∧
        (∃ lines, WellFramed override.content lines ∧ Lexeme.spokenLines lines = [remarkLine]) ∧
        ∃ lines, WellFramed implementation.content lines ∧
          Lexeme.spokenLines lines = [labelLine "Name\n", labelLine "Size", labelLine "name\n",
            labelLine "size", refusalLine] := by
  have each : ∀ parameter ∈ [Example.number "Name\n", Example.number "Size"], Writable parameter :=
    List.forall_mem_cons.mpr ⟨Example.writable_number (by decide),
      List.forall_mem_singleton.mpr (Example.writable_number (by decide))⟩
  have emitted := emit_eq_ok_iff.mpr ⟨Example.writable_ending, each, rfl⟩
  have lowered : (Example.number "Name\n").loweredName = "name\n" ∧
      (Example.number "Size").loweredName = "size" := by decide +kernel
  obtain ⟨overriding, lines, framed, spoken⟩ := emit_blocks emitted
  refine ⟨_, _, emitted, overriding, lines, framed, ?_⟩
  rw [spoken, List.map_cons, List.map_cons, List.map_nil, List.map_cons, List.map_cons,
    List.map_nil, lowered.1, lowered.2]
  rfl

end ComponentPasses.Dispatch

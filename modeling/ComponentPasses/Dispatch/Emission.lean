import ComponentPasses.Artifact
import ComponentPasses.Dispatch.Plan
import ComponentPasses.Settings.Basic
import ComponentPasses.Source.Writer

/-!
# The source of a dispatcher

Each candidate class gets two artifacts, laid out from its plan:

* the **override** hands every incoming parameter to the dispatcher and then goes on with the base
  class, without setting parameters a second time;
* the **implementation** is the dispatcher: a switch on the exact name whose default is a switch on
  the lowered name, whose default throws.

Both stand in the class's namespace, if it has one.  One more artifact, the same in every run,
declares the attributes that opt classes in and out.
-/

namespace ComponentPasses.Dispatch

open Source (Layout EmitError)

/-- The name of the generated dispatcher method. -/
def dispatcherMethod : String := "BlazorImplementation__WriteSingleParameter"

/-! ## 1. Layouts -/

/-- The class block around a body, inside the namespace block if there is a namespace. -/
def inType (plan : Plan) (body : List Layout) : List Layout :=
  let typeBlock := Layout.block (some plan.typeHeader) body
  if plan.enclosing = "" then [typeBlock]
  else [.block (some ("namespace " ++ plan.enclosing)) [typeBlock]]

/-- The lines of one arm. -/
def armLayout (arm : Arm) : List Layout :=
  [.line ("case " ++ arm.label ++ ":"),
    .indented [
      .line ("this." ++ arm.target ++ " = (" ++ arm.castType ++ ")value;"),
      .line "break;"]]

/-- The layout of the override. -/
def overrideLayout (plan : Plan) : List Layout :=
  [.line "using Microsoft.AspNetCore.Components;",
    .line "using System.Threading.Tasks;",
    .blank] ++
  inType plan [
    .block (some "public override Task SetParametersAsync(ParameterView parameters)") [
      .block (some "foreach (var parameter in parameters)") [
        .line (dispatcherMethod ++ "(parameter.Name, parameter.Value);")],
      .blank,
      .line "// Run the normal lifecycle methods, but without assigning parameters again",
      .line "return base.SetParametersAsync(ParameterView.Empty);"]]

/-- The layout of the second tier. -/
def loweredSwitch (arms : List Arm) : Layout :=
  .block (some "switch (name.ToLowerInvariant())") <|
    arms.flatMap armLayout ++
      [.line "default:",
        .indented [
          .line "throw new ArgumentException($\"Unknown parameter: \x7bname\x7d\");"]]

/-- The layout of both tiers. -/
def exactSwitch (exact lowered : List Arm) : Layout :=
  .block (some "switch (name)") <|
    exact.flatMap armLayout ++
      [.block (some "default:") [loweredSwitch lowered, .line "break;"]]

/-- The layout of the implementation. -/
def implementationLayout (plan : Plan) : List Layout :=
  [.line "using System;", .blank] ++
  inType plan [
    .block (some ("private void " ++ dispatcherMethod ++ "(string name, object value)")) [
      exactSwitch plan.exactArms plan.loweredArms]]

/-! ## 2. Artifacts -/

/-- The text of the override. -/
def overrideText (plan : Plan) : String :=
  Layout.text (overrideLayout plan)

/-- The text of the implementation. -/
def implementationText (plan : Plan) : String :=
  Layout.text (implementationLayout plan)

/-- The two artifacts of a plan. -/
def artifacts (plan : Plan) : Artifact × Artifact :=
  (⟨plan.overrideName, overrideText plan⟩, ⟨plan.implementationName, implementationText plan⟩)

/-- The two artifacts of a class, or why it cannot have them. -/
def emit (info : ClassInfo) (parameters : List Parameter) :
    Except EmitError (Artifact × Artifact) :=
  (Plan.build info parameters).map artifacts

/-- The lines that declare an attribute class. -/
def attributeLines (name : String) : List String :=
  ["    [AttributeUsage(AttributeTargets.Class, Inherited = false, AllowMultiple = true)]",
    "    sealed class " ++ name ++ " : Attribute",
    "    \x7b",
    "    \x7d"]

/-- The artifact that declares the attributes that opt classes in and out. -/
def markerArtifact : Artifact where
  name := inclusionMarker
  content :=
    "\n".intercalate <|
      ["", "using System;", "namespace " ++ markerNamespace, "\x7b"] ++
        attributeLines inclusionMarker ++ attributeLines exclusionMarker ++ ["\x7d", ""]

end ComponentPasses.Dispatch

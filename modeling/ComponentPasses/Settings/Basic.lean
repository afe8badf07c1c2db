import ComponentPasses.Text.Cut

/-!
# Settings

Everything the passes decide by name is a setting: which attributes opt a class into dispatch
generation or out of it, which attributes make a property a parameter, which method builds a render
tree, which identifiers denote a builder, and which builder calls open, close and key an element.
Two more settings choose the passes and one bounds how deep helper calls are followed.

Each setting has a default; `{}` is the settings with every default.
-/

namespace ComponentPasses

/-- The namespace of the attributes that opt a class in or out. -/
def markerNamespace : String := "Excubo.Generators.Blazor"

/-- The attribute class that opts a class in. -/
def inclusionMarker : String := "GenerateSetParametersAsyncAttribute"

/-- The attribute class that opts a class out. -/
def exclusionMarker : String := "DoNotGenerateSetParametersAsyncAttribute"

/-- The settings of a run. -/
structure Settings where
  /-- The full names of the attributes that opt a class in. -/
  inclusionMarkers : List String := [markerNamespace ++ "." ++ inclusionMarker]
  /-- The full names of the attributes that opt a class out, whatever opts it in. -/
  exclusionMarkers : List String := [markerNamespace ++ "." ++ exclusionMarker]
  /-- The name of the class that stands for framework-wide imports, never a candidate. -/
  importsClassName : String := "_Imports"
  /-- The unqualified names of the attributes that make a property a parameter. -/
  parameterMarkers : List String :=
    ["Parameter", "ParameterAttribute", "CascadingParameter", "CascadingParameterAttribute"]
  /-- The name of the method that builds a render tree. -/
  renderMethodName : String := "BuildRenderTree"
  /-- An identifier that contains one of these denotes a builder. -/
  builderMarkers : List String := ["builder"]
  /-- The builder calls that begin an element or component. -/
  openCalls : List String := ["OpenElement", "OpenComponent"]
  /-- The builder calls that end an element or component. -/
  closeCalls : List String := ["CloseElement", "CloseComponent"]
  /-- The builder calls that give an element or component a key. -/
  setKeyCalls : List String := ["SetKey"]
  /-- How many nested helper calls are followed. -/
  maxInlineDepth : Nat := 4
  /-- Whether dispatchers are generated. -/
  generateDispatch : Bool := true
  /-- Whether loops are analysed. -/
  analyzeKeys : Bool := true
deriving DecidableEq, Repr, Inhabited

/-- Whether an identifier denotes a builder: some builder marker stands inside it. -/
def Settings.isBuilderName (settings : Settings) (identifier : String) : Bool :=
  settings.builderMarkers.any fun marker => Text.occursIn marker.toList identifier.toList

end ComponentPasses

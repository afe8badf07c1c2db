import ComponentPasses.Schema.Reading
import ComponentPasses.Settings.Basic

/-!
# Reading settings

The schema of the settings.  A list of names may be written as a single text.  The names by which
identifiers, properties and calls are recognised are trimmed, and none of them may be blank, since
a blank one would match everything.  The names of the opt-in and opt-out attributes are taken as
they are.

`write` gives the settings with all their fields; reading that gives the same settings back.
-/

namespace ComponentPasses.Settings

open Data (Value)
open Schema

/-- A list of names, or a single name for a list of one. -/
def asNames : Value → Checked (List String)
  | .text s => .valid [s]
  | v => listOf asText v

/-- A list of names that are trimmed and must not be blank. -/
def asTrimmedNames (v : Value) : Checked (List String) :=
  (asNames v).andThen fun names =>
    let trimmed := names.map Text.trim
    if trimmed.contains "" then .fail .blankName else .valid trimmed

/-- Reads the fields of the settings; a field that is not there has its default. -/
def ofFields (fields : Fields) : Checked Settings :=
  let standard : Settings := {}
  Settings.mk
    <$> defaulted fields "inclusion_markers" standard.inclusionMarkers asNames
    <*> defaulted fields "exclusion_markers" standard.exclusionMarkers asNames
    <*> defaulted fields "imports_class_name" standard.importsClassName asText
    <*> defaulted fields "parameter_markers" standard.parameterMarkers asTrimmedNames
    <*> defaulted fields "render_method_name" standard.renderMethodName asText
    <*> defaulted fields "builder_markers" standard.builderMarkers asTrimmedNames
    <*> defaulted fields "open_calls" standard.openCalls asTrimmedNames
    <*> defaulted fields "close_calls" standard.closeCalls asTrimmedNames
    <*> defaulted fields "set_key_calls" standard.setKeyCalls asTrimmedNames
    <*> defaulted fields "max_inline_depth" standard.maxInlineDepth asNatural
    <*> defaulted fields "generate_dispatch" standard.generateDispatch asFlag
    <*> defaulted fields "analyze_keys" standard.analyzeKeys asFlag

/-- The name of the schema in messages. -/
def modelName : String := "GeneratorConfig"

/-- Reads the settings. -/
def read : Value → Checked Settings :=
  model modelName ofFields

/-- The settings with all their fields. -/
def write (settings : Settings) : Value :=
  .record [
    ("inclusion_markers", .texts settings.inclusionMarkers),
    ("exclusion_markers", .texts settings.exclusionMarkers),
    ("imports_class_name", .text settings.importsClassName),
    ("parameter_markers", .texts settings.parameterMarkers),
    ("render_method_name", .text settings.renderMethodName),
    ("builder_markers", .texts settings.builderMarkers),
    ("open_calls", .texts settings.openCalls),
    ("close_calls", .texts settings.closeCalls),
    ("set_key_calls", .texts settings.setKeyCalls),
    ("max_inline_depth", .integer settings.maxInlineDepth),
    ("generate_dispatch", .flag settings.generateDispatch),
    ("analyze_keys", .flag settings.analyzeKeys)]

end ComponentPasses.Settings

import ComponentPasses.Data.Value

/-!
# Violations of a schema

A schema check reports everything it finds.  Each `Violation` has a place, the steps from the
whole value down to the part at fault, and a `Fault`, the rule that the part breaks.  A fault has
a short code for programs and a message for people.
-/

namespace ComponentPasses.Schema

/-- One step from a value down to a part of it. -/
inductive Step
  | field (name : String)
  | item (index : Nat)
deriving DecidableEq, Repr

/-- The rule that a part of a value breaks. -/
inductive Fault
  | missing
  | notText
  | notList
  | notModel (model : String)
  | notRecord
  | noTag
  | unknownTag (found : String) (expected : List String)
  | notLiteral (expected : String)
  | notChoice (choices : List String)
  | notInteger
  | unreadableInteger
  | oversizedInteger
  | fraction
  | notFinite
  | belowZero
  | notFlag
  | unreadableFlag
  | blankName
deriving DecidableEq, Repr

/-- A rule broken at a place. -/
structure Violation where
  place : List Step
  fault : Fault
deriving DecidableEq, Repr

namespace Fault

/-- Choices between single quotes, the last one after "or". -/
def alternatives : List String → String
  | [] => ""
  | [a] => "'" ++ a ++ "'"
  | [a, b] => "'" ++ a ++ "' or '" ++ b ++ "'"
  | a :: rest => "'" ++ a ++ "', " ++ alternatives rest

/-- The short code of a fault. -/
def code : Fault → String
  | .missing => "missing"
  | .notText => "string_type"
  | .notList => "list_type"
  | .notModel _ => "model_type"
  | .notRecord => "model_attributes_type"
  | .noTag => "union_tag_not_found"
  | .unknownTag _ _ => "union_tag_invalid"
  | .notLiteral _ => "literal_error"
  | .notChoice _ => "enum"
  | .notInteger => "int_type"
  | .unreadableInteger => "int_parsing"
  | .oversizedInteger => "int_parsing_size"
  | .fraction => "int_from_float"
  | .notFinite => "finite_number"
  | .belowZero => "greater_than_equal"
  | .notFlag => "bool_type"
  | .unreadableFlag => "bool_parsing"
  | .blankName => "value_error"

/-- The rule in words. -/
def message : Fault → String
  | .missing => "Field required"
  | .notText => "Input should be a valid string"
  | .notList => "Input should be a valid list"
  | .notModel model => "Input should be a valid dictionary or instance of " ++ model
  | .notRecord => "Input should be a valid dictionary or object to extract fields from"
  | .noTag => "Unable to extract tag using discriminator 'kind'"
  | .unknownTag found expected =>
    "Input tag '" ++ found ++
      "' found using 'kind' does not match any of the expected tags: " ++
      ", ".intercalate (expected.map fun tag => "'" ++ tag ++ "'")
  | .notLiteral expected => "Input should be '" ++ expected ++ "'"
  | .notChoice choices => "Input should be " ++ alternatives choices
  | .notInteger => "Input should be a valid integer"
  | .unreadableInteger =>
    "Input should be a valid integer, unable to parse string as an integer"
  | .oversizedInteger => "Unable to parse input string as an integer, exceeded maximum size"
  | .fraction => "Input should be a valid integer, got a number with a fractional part"
  | .notFinite => "Input should be a finite number"
  | .belowZero => "Input should be greater than or equal to 0"
  | .notFlag => "Input should be a valid boolean"
  | .unreadableFlag => "Input should be a valid boolean, unable to interpret input"
  | .blankName => "Value error, Marker and call names must be non-empty strings."

end Fault

/-- The first line of a report: how many rules a value for the model breaks. -/
def reportTitle (model : String) (violations : List Violation) : String :=
  toString violations.length ++
    (if violations.length = 1 then " validation error for " else " validation errors for ") ++ model

end ComponentPasses.Schema

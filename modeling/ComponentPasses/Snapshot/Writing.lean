import ComponentPasses.Data.Value
import ComponentPasses.Snapshot.Basic

/-!
# Writing snapshots

The written form of a snapshot has every field of the format, absent ones as null, and every tree
node with its `kind`.  Reading it gives the snapshot back.
-/

namespace ComponentPasses.Snapshot

open Data (Value)

/-! ## 1. Locations and types -/

/-- A location with all its fields. -/
def Location.write (location : Location) : Value :=
  .record [("path", .text location.path), ("line", .integer location.line),
    ("column", .integer location.column)]

/-- An attribute with all its fields. -/
def AttributeClass.write (marker : AttributeClass) : Value :=
  .record [("name", .text marker.name), ("namespace", .text marker.enclosing)]

/-- A property with all its fields. -/
def Property.write (property : Property) : Value :=
  .record [("name", .text property.name), ("type", .text property.type),
    ("has_setter", .flag property.hasSetter),
    ("attributes", .list (property.attributes.map (·.write))),
    ("locations", .list (property.locations.map (·.write)))]

/-- A declared type with all its fields. -/
def DeclaredType.write (type : DeclaredType) : Value :=
  .record [("name", .text type.name), ("namespace", .text type.enclosing),
    ("kind", .text type.kind.keyword), ("type_parameters", .texts type.typeParameters),
    ("base_type", .ofText? type.base?), ("attributes", .list (type.attributes.map (·.write))),
    ("properties", .list (type.properties.map (·.write))),
    ("locations", .list (type.locations.map (·.write)))]

/-! ## 2. Expressions and statements -/

mutual

/-- An expression with all its fields. -/
def Expression.write : Expression → Value
  | .invocation receiver name arguments symbol location =>
    .record [("kind", .text "invocation"), ("receiver", .ofText? receiver), ("name", .text name),
      ("arguments", .list (Expression.writeAll arguments)), ("symbol", .ofText? symbol),
      ("location", location.write)]
  | .identifier name => .record [("kind", .text "identifier"), ("name", .text name)]
  | .lambda parameters body expressionBody location =>
    .record [("kind", .text "lambda"), ("parameters", .texts parameters),
      ("body", Statement.writeBody body),
      ("expression_body", Expression.writeOption expressionBody), ("location", location.write)]
  | .literal text => .record [("kind", .text "literal"), ("text", .text text)]

/-- Expressions, each with all its fields. -/
def Expression.writeAll : List Expression → List Value
  | [] => []
  | e :: rest => e.write :: Expression.writeAll rest

/-- An expression, or null where there is none. -/
def Expression.writeOption : Option Expression → Value
  | none => .null
  | some e => e.write

/-- A statement with all its fields. -/
def Statement.write : Statement → Value
  | .block statements =>
    .record [("kind", .text "block"), ("statements", .list (Statement.writeAll statements))]
  | .expression e => .record [("kind", .text "expression"), ("expression", e.write)]
  | .loop kind keyword body =>
    .record [("kind", .text kind.keyword), ("keyword_location", keyword.write),
      ("body", body.write)]
  | .other text expressions statements =>
    .record [("kind", .text "other"), ("text", .text text),
      ("expressions", .list (Expression.writeAll expressions)),
      ("statements", .list (Statement.writeAll statements))]

/-- Statements, each with all its fields. -/
def Statement.writeAll : List Statement → List Value
  | [] => []
  | s :: rest => s.write :: Statement.writeAll rest

/-- A block body, or null where there is none. -/
def Statement.writeBody : Option (List Statement) → Value
  | none => .null
  | some statements =>
    .record [("kind", .text "block"), ("statements", .list (Statement.writeAll statements))]

end

/-! ## 3. Declarations and files -/

mutual

/-- A member with all its fields. -/
def Member.write : Member → Value
  | .classDeclaration name symbol attributes members location =>
    .record [("kind", .text "class"), ("name", .text name), ("symbol", .ofText? symbol),
      ("attributes", .texts attributes), ("members", .list (Member.writeAll members)),
      ("location", location.write)]
  | .methodDeclaration name symbol parameters body location =>
    .record [("kind", .text "method"), ("name", .text name), ("symbol", .ofText? symbol),
      ("parameters", .texts parameters), ("body", Statement.writeBody body),
      ("location", location.write)]

/-- Members, each with all its fields. -/
def Member.writeAll : List Member → List Value
  | [] => []
  | m :: rest => m.write :: Member.writeAll rest

end

/-- A source file with all its fields. -/
def SourceFile.write (file : SourceFile) : Value :=
  .record [("path", .text file.path), ("members", .list (file.members.map (·.write)))]

/-- A snapshot with all its fields. -/
def write (snapshot : Snapshot) : Value :=
  .record [("assembly_name", .text snapshot.assemblyName),
    ("types", .list (snapshot.types.map (·.write))),
    ("syntax_trees", .list (snapshot.files.map (·.write)))]

end ComponentPasses.Snapshot

import ComponentPasses.Schema.Reading
import ComponentPasses.Snapshot.Basic
import ComponentPasses.Text.Cut

/-!
# Reading snapshots

The schema of the snapshot format.  Fields are checked in the order the format lists them, unknown
fields are passed over, and a field that may be absent has its default.

Three kinds of tree node come in several shapes, told apart by their field `kind`: expressions,
statements and members.  Where the format leaves a choice, the field decides which shape is read and
the place of a violation names it.  Where only one shape may stand, the field may be absent.

An attribute may be written as a text: what stands before the last point is the namespace.
-/

namespace ComponentPasses.Snapshot

open Data (Value)
open Schema

/-! ## 1. Locations and types -/

/-- Reads the fields of a location. -/
def Location.ofFields (fields : Fields) : Checked Location :=
  Location.mk
    <$> defaulted fields "path" "" asText
    <*> defaulted fields "line" 0 asInteger
    <*> defaulted fields "column" 0 asInteger

/-- Reads a location. -/
def Location.read : Value → Checked Location :=
  model "Location" Location.ofFields

/-- Reads the fields of an attribute. -/
def AttributeClass.ofFields (fields : Fields) : Checked AttributeClass :=
  AttributeClass.mk
    <$> required fields "name" asText
    <*> defaulted fields "namespace" "" asText

/-- The attribute that a text with points names. -/
def AttributeClass.ofDotted (s : String) : AttributeClass :=
  match Text.cutAtLast '.' s.toList with
  | some (before, after) => ⟨String.ofList after, String.ofList before⟩
  | none => ⟨s, ""⟩

/-- Reads an attribute, written as a record or as a text. -/
def AttributeClass.read : Value → Checked AttributeClass
  | .text s => .valid (.ofDotted s)
  | v => model "AttributeData" AttributeClass.ofFields v

/-- Reads the fields of a property. -/
def Property.ofFields (fields : Fields) : Checked Property :=
  Property.mk
    <$> required fields "name" asText
    <*> required fields "type" asText
    <*> defaulted fields "has_setter" true asFlag
    <*> defaulted fields "attributes" [] (listOf AttributeClass.read)
    <*> defaulted fields "locations" [] (listOf Location.read)

/-- Reads a property. -/
def Property.read : Value → Checked Property :=
  model "PropertySymbol" Property.ofFields

/-- Reads the fields of a declared type. -/
def DeclaredType.ofFields (fields : Fields) : Checked DeclaredType :=
  DeclaredType.mk
    <$> required fields "name" asText
    <*> defaulted fields "namespace" "" asText
    <*> defaulted fields "kind" .classKind (asChoice TypeKind.choices)
    <*> defaulted fields "type_parameters" [] (listOf asText)
    <*> defaulted fields "base_type" none (nullable asText)
    <*> defaulted fields "attributes" [] (listOf AttributeClass.read)
    <*> defaulted fields "properties" [] (listOf Property.read)
    <*> defaulted fields "locations" [] (listOf Location.read)

/-- Reads a declared type. -/
def DeclaredType.read : Value → Checked DeclaredType :=
  model "TypeSymbol" DeclaredType.ofFields

/-! ## 2. Expressions and statements -/

/-- The field that tells shapes apart, where only one may stand. -/
def ownKind (fields : Fields) (expected : String) : Checked Unit :=
  defaulted fields "kind" () (asLiteral expected)

/-- Reads a part that comes in several shapes: finds its shape and hands on the shape and the
fields.  A place inside the part goes through the name of the shape. -/
def taggedWith {α : Type} (tags : List String) (v : Value)
    (read : (tag : String) → (fields : Fields) → sizeOf fields < sizeOf v → Checked α) :
    Checked α :=
  match v with
  | .record fields =>
    match fields.lookup "kind" with
    | none => .fail .noTag
    | some found =>
      match found with
      | .text tag =>
        if tags.contains tag then
          (read tag fields (sizeOf_lt_record fields)).under (.field tag)
        else .fail (.unknownTag tag tags)
      | other => .fail (.unknownTag other.display tags)
  | _ => .fail .notRecord

/-- The shapes of an expression. -/
def expressionTags : List String := ["invocation", "identifier", "lambda", "literal"]

/-- The shapes of a statement. -/
def statementTags : List String := ["block", "expression", "for", "foreach", "other"]

/-- The shapes of a member. -/
def memberTags : List String := ["class", "method"]

/-- The loop kind that a shape of a statement stands for. -/
def LoopKind.ofTag : String → LoopKind
  | "for" => .counting
  | _ => .iterating

/-- Reads the fields of an identifier. -/
def Expression.identifierOfFields (fields : Fields) : Checked Expression :=
  (fun _ name => .identifier name)
    <$> ownKind fields "identifier"
    <*> required fields "name" asText

/-- Reads the fields of a literal. -/
def Expression.literalOfFields (fields : Fields) : Checked Expression :=
  (fun _ text => .literal text)
    <$> ownKind fields "literal"
    <*> defaulted fields "text" "" asText

/-- Reads a value or null, with a reader that knows where the value stands. -/
def nullableWith {α : Type} (v : Value) (read : (w : Value) → sizeOf w ≤ sizeOf v → Checked α) :
    Checked (Option α) :=
  match v with
  | .null => .valid none
  | v => (read v (by omega)).map some

mutual

/-- Reads the fields of a call. -/
def Expression.invocationOfFields (fields : Fields) : Checked Expression :=
  (fun _ receiver name arguments symbol location =>
      .invocation receiver name arguments symbol location)
    <$> ownKind fields "invocation"
    <*> defaulted fields "receiver" none (nullable asText)
    <*> required fields "name" asText
    <*> defaultedWith fields "arguments" [] (fun v _ => listWith v fun w _ => Expression.read w)
    <*> defaulted fields "symbol" none (nullable asText)
    <*> defaulted fields "location" {} Location.read
termination_by (sizeOf fields, 0)
decreasing_by all_goals apply Prod.Lex.left; omega

/-- Reads the fields of an anonymous function. -/
def Expression.lambdaOfFields (fields : Fields) : Checked Expression :=
  (fun _ parameters body expressionBody location =>
      .lambda parameters body expressionBody location)
    <$> ownKind fields "lambda"
    <*> defaulted fields "parameters" [] (listOf asText)
    <*> defaultedWith fields "body" none
      (fun v _ => nullableWith v fun w _ => Statement.readBlock w)
    <*> defaultedWith fields "expression_body" none
      (fun v _ => nullableWith v fun w _ => Expression.read w)
    <*> defaulted fields "location" {} Location.read
termination_by (sizeOf fields, 0)
decreasing_by all_goals apply Prod.Lex.left; omega

/-- Reads an expression. -/
def Expression.read (v : Value) : Checked Expression :=
  taggedWith expressionTags v fun tag fields _ =>
    match tag with
    | "invocation" => Expression.invocationOfFields fields
    | "identifier" => Expression.identifierOfFields fields
    | "lambda" => Expression.lambdaOfFields fields
    | _ => Expression.literalOfFields fields
termination_by (sizeOf v, 1)
decreasing_by all_goals apply Prod.Lex.left; omega

/-- Reads the fields of a block. -/
def Statement.blockOfFields (fields : Fields) : Checked (List Statement) :=
  (fun _ statements => statements)
    <$> ownKind fields "block"
    <*> defaultedWith fields "statements" [] (fun v _ => listWith v fun w _ => Statement.read w)
termination_by (sizeOf fields, 0)
decreasing_by all_goals apply Prod.Lex.left; omega

/-- Reads a block where nothing else may stand. -/
def Statement.readBlock (v : Value) : Checked (List Statement) :=
  modelWith "Block" v fun fields _ => Statement.blockOfFields fields
termination_by (sizeOf v, 1)
decreasing_by all_goals apply Prod.Lex.left; omega

/-- Reads the fields of a statement that is a single expression. -/
def Statement.expressionOfFields (fields : Fields) : Checked Statement :=
  (fun _ e => .expression e)
    <$> ownKind fields "expression"
    <*> requiredWith fields "expression" (fun v _ => Expression.read v)
termination_by (sizeOf fields, 0)
decreasing_by all_goals apply Prod.Lex.left; omega

/-- Reads the fields of a loop. -/
def Statement.loopOfFields (kind : LoopKind) (fields : Fields) : Checked Statement :=
  (fun _ keyword body => .loop kind keyword body)
    <$> ownKind fields kind.keyword
    <*> defaulted fields "keyword_location" {} Location.read
    <*> requiredWith fields "body" (fun v _ => Statement.read v)
termination_by (sizeOf fields, 0)
decreasing_by all_goals apply Prod.Lex.left; omega

/-- Reads the fields of an other statement. -/
def Statement.otherOfFields (fields : Fields) : Checked Statement :=
  (fun _ text expressions statements => .other text expressions statements)
    <$> ownKind fields "other"
    <*> defaulted fields "text" "" asText
    <*> defaultedWith fields "expressions" [] (fun v _ => listWith v fun w _ => Expression.read w)
    <*> defaultedWith fields "statements" [] (fun v _ => listWith v fun w _ => Statement.read w)
termination_by (sizeOf fields, 0)
decreasing_by all_goals apply Prod.Lex.left; omega

/-- Reads a statement. -/
def Statement.read (v : Value) : Checked Statement :=
  taggedWith statementTags v fun tag fields _ =>
    match tag with
    | "block" => (Statement.blockOfFields fields).map .block
    | "expression" => Statement.expressionOfFields fields
    | "other" => Statement.otherOfFields fields
    | loop => Statement.loopOfFields (.ofTag loop) fields
termination_by (sizeOf v, 1)
decreasing_by all_goals apply Prod.Lex.left; omega

end

/-! ## 3. Declarations and files -/

/-- Reads the fields of a method declaration. -/
def Member.methodOfFields (fields : Fields) : Checked Member :=
  (fun _ name symbol parameters body location =>
      .methodDeclaration name symbol parameters body location)
    <$> ownKind fields "method"
    <*> required fields "name" asText
    <*> defaulted fields "symbol" none (nullable asText)
    <*> defaulted fields "parameters" [] (listOf asText)
    <*> defaulted fields "body" none (nullable Statement.readBlock)
    <*> defaulted fields "location" {} Location.read

mutual

/-- Reads the fields of a class declaration. -/
def Member.classOfFields (fields : Fields) : Checked Member :=
  (fun _ name symbol attributes members location =>
      .classDeclaration name symbol attributes members location)
    <$> ownKind fields "class"
    <*> required fields "name" asText
    <*> defaulted fields "symbol" none (nullable asText)
    <*> defaulted fields "attributes" [] (listOf asText)
    <*> defaultedWith fields "members" [] (fun v _ => listWith v fun w _ => Member.read w)
    <*> defaulted fields "location" {} Location.read
termination_by (sizeOf fields, 0)
decreasing_by all_goals apply Prod.Lex.left; omega

/-- Reads a member. -/
def Member.read (v : Value) : Checked Member :=
  taggedWith memberTags v fun tag fields _ =>
    match tag with
    | "class" => Member.classOfFields fields
    | _ => Member.methodOfFields fields
termination_by (sizeOf v, 1)
decreasing_by all_goals apply Prod.Lex.left; omega

end

/-- Reads the fields of a source file. -/
def SourceFile.ofFields (fields : Fields) : Checked SourceFile :=
  SourceFile.mk
    <$> defaulted fields "path" "" asText
    <*> defaulted fields "members" [] (listOf Member.read)

/-- Reads a source file. -/
def SourceFile.read : Value → Checked SourceFile :=
  model "SyntaxTree" SourceFile.ofFields

/-- Reads the fields of a snapshot. -/
def ofFields (fields : Fields) : Checked Snapshot :=
  Snapshot.mk
    <$> defaulted fields "assembly_name" "" asText
    <*> defaulted fields "types" [] (listOf DeclaredType.read)
    <*> defaulted fields "syntax_trees" [] (listOf SourceFile.read)

/-- Reads a snapshot. -/
def read : Value → Checked Snapshot :=
  model "CompilationSnapshot" ofFields

end ComponentPasses.Snapshot

import ComponentPasses.Proofs.Schema.Reading
import ComponentPasses.Snapshot.Loading
import ComponentPasses.Snapshot.Writing

/-!
# A written snapshot reads back

Writing a snapshot gives every field of the format, whether or not the text it came from had it:
what was left out has its default, numbers and truth values have their own form, and an attribute
that was a text with points is a record.  Reading what is written gives the snapshot back, so a
snapshot that was accepted in whatever form is accepted again in its full one, as the same snapshot
(`ofValue_write`).

The proof follows the schema.  A record reads back where its parts do; the lemmas of section 2 say
so for each shape of a tree node, with the parts as hypotheses.  The two mutual inductions, over
expressions with statements and over members, then only put them together.
-/

namespace ComponentPasses.Snapshot

open Data (Value)
open Schema

/-! ## 1. Locations and types -/

theorem Location.read_write (location : Location) :
    Location.read location.write = .valid location := rfl

theorem AttributeClass.read_write (marker : AttributeClass) :
    AttributeClass.read marker.write = .valid marker := rfl

theorem listOf_location (locations : List Location) :
    listOf Location.read (.list (locations.map (·.write))) = .valid locations :=
  listOf_map fun location _ => location.read_write

theorem listOf_attributeClass (attributes : List AttributeClass) :
    listOf AttributeClass.read (.list (attributes.map (·.write))) = .valid attributes :=
  listOf_map fun marker _ => marker.read_write

theorem Property.read_write (property : Property) :
    Property.read property.write = .valid property := by
  calc Property.read property.write
      = Property.mk
          <$> .valid property.name
          <*> .valid property.type
          <*> .valid property.hasSetter
          <*> (listOf AttributeClass.read (.list (property.attributes.map (·.write)))).under
            (.field "attributes")
          <*> (listOf Location.read (.list (property.locations.map (·.write)))).under
            (.field "locations") := rfl
    _ = .valid property := by rw [listOf_attributeClass, listOf_location]; rfl

theorem asChoice_keyword (kind : TypeKind) :
    asChoice TypeKind.choices (.text kind.keyword) = .valid kind := by
  cases kind <;> rfl

theorem DeclaredType.read_write (type : DeclaredType) :
    DeclaredType.read type.write = .valid type := by
  have properties : listOf Property.read (.list (type.properties.map (·.write))) =
      .valid type.properties := listOf_map fun property _ => property.read_write
  calc DeclaredType.read type.write
      = DeclaredType.mk
          <$> .valid type.name
          <*> .valid type.enclosing
          <*> (asChoice TypeKind.choices (.text type.kind.keyword)).under (.field "kind")
          <*> (listOf asText (.texts type.typeParameters)).under (.field "type_parameters")
          <*> (nullable asText (.ofText? type.base?)).under (.field "base_type")
          <*> (listOf AttributeClass.read (.list (type.attributes.map (·.write)))).under
            (.field "attributes")
          <*> (listOf Property.read (.list (type.properties.map (·.write)))).under
            (.field "properties")
          <*> (listOf Location.read (.list (type.locations.map (·.write)))).under
            (.field "locations") := rfl
    _ = .valid type := by
      rw [asChoice_keyword, listOf_texts, nullable_ofText?, listOf_attributeClass, properties,
        listOf_location]
      rfl

/-! ## 2. One node -/

theorem Expression.writeAll_eq (expressions : List Expression) :
    Expression.writeAll expressions = expressions.map (·.write) := by
  induction expressions with
  | nil => rfl
  | cons e rest ih => rw [Expression.writeAll, ih, List.map_cons]

theorem Statement.writeAll_eq (statements : List Statement) :
    Statement.writeAll statements = statements.map (·.write) := by
  induction statements with
  | nil => rfl
  | cons s rest ih => rw [Statement.writeAll, ih, List.map_cons]

theorem Member.writeAll_eq (members : List Member) :
    Member.writeAll members = members.map (·.write) := by
  induction members with
  | nil => rfl
  | cons m rest ih => rw [Member.writeAll, ih, List.map_cons]

theorem Expression.write_ne_null (e : Expression) : e.write ≠ .null := by
  cases e <;> exact nofun

theorem nullableWith_eq {α : Type} (v : Value) (read : Value → Checked α) :
    nullableWith v (fun w _ => read w) = nullable read v := by
  cases v <;> rfl

section Nodes

variable {arguments expressions : List Expression} {statements : List Statement}
  {body : Option (List Statement)} {expressionBody : Option Expression} {e : Expression}
  {s : Statement} {members : List Member} {name text : String} {symbol : Option String}
  {parameters : List String} {location : Location}

theorem Expression.read_invocation {receiver : Option String}
    (each : ∀ e ∈ arguments, Expression.read e.write = .valid e) :
    Expression.read (Expression.invocation receiver name arguments symbol location).write =
      .valid (.invocation receiver name arguments symbol location) := by
  have read := listOf_map each
  rw [Expression.write, Expression.writeAll_eq, Expression.read]
  change (Expression.invocationOfFields _).under (.field "invocation") = _
  refine under_of_valid _ ?_
  rw [Expression.invocationOfFields]
  calc _ = (fun _ receiver name arguments symbol location =>
            Expression.invocation receiver name arguments symbol location)
          <$> .valid ()
          <*> (nullable asText (.ofText? receiver)).under (.field "receiver")
          <*> .valid name
          <*> (listOf Expression.read (.list (arguments.map (·.write)))).under (.field "arguments")
          <*> (nullable asText (.ofText? symbol)).under (.field "symbol")
          <*> .valid location := rfl
    _ = _ := by rw [nullable_ofText?, nullable_ofText?, read]; rfl

theorem Expression.read_lambda
    (block : nullable Statement.readBlock (Statement.writeBody body) = .valid body)
    (result : nullable Expression.read (Expression.writeOption expressionBody) =
      .valid expressionBody) :
    Expression.read (Expression.lambda parameters body expressionBody location).write =
      .valid (.lambda parameters body expressionBody location) := by
  rw [Expression.write, Expression.read]
  change (Expression.lambdaOfFields _).under (.field "lambda") = _
  refine under_of_valid _ ?_
  rw [Expression.lambdaOfFields]
  calc _ = (fun _ parameters body expressionBody location =>
            Expression.lambda parameters body expressionBody location)
          <$> .valid ()
          <*> (listOf asText (.texts parameters)).under (.field "parameters")
          <*> (nullableWith (Statement.writeBody body) fun w _ => Statement.readBlock w).under
            (.field "body")
          <*> (nullableWith (Expression.writeOption expressionBody) fun w _ =>
            Expression.read w).under (.field "expression_body")
          <*> .valid location := rfl
    _ = _ := by rw [listOf_texts, nullableWith_eq, nullableWith_eq, block, result]; rfl

theorem Statement.blockOfFields_write (each : ∀ s ∈ statements, Statement.read s.write = .valid s) :
    Statement.blockOfFields [("kind", .text "block"),
        ("statements", .list (Statement.writeAll statements))] = .valid statements := by
  have read := listOf_map each
  rw [Statement.writeAll_eq, Statement.blockOfFields]
  calc _ = (fun _ statements => statements)
          <$> .valid ()
          <*> (listOf Statement.read (.list (statements.map (·.write)))).under
            (.field "statements") := rfl
    _ = _ := by rw [read]; rfl

theorem Statement.nullable_writeBody
    (each : ∀ s ∈ statements, Statement.read s.write = .valid s) :
    nullable Statement.readBlock (Statement.writeBody (some statements)) =
      .valid (some statements) := by
  have read := Statement.blockOfFields_write each
  rw [Statement.writeBody, nullable_of_ne_null Value.noConfusion, Statement.readBlock]
  exact congrArg (Checked.map some) read

theorem Statement.read_block (each : ∀ s ∈ statements, Statement.read s.write = .valid s) :
    Statement.read (Statement.block statements).write = .valid (.block statements) := by
  have read := Statement.blockOfFields_write each
  rw [Statement.write, Statement.read]
  exact under_of_valid (.field "block") (congrArg (Checked.map Statement.block) read)

theorem Statement.read_expression (read : Expression.read e.write = .valid e) :
    Statement.read (Statement.expression e).write = .valid (.expression e) := by
  rw [Statement.write, Statement.read]
  change (Statement.expressionOfFields _).under (.field "expression") = _
  refine under_of_valid _ ?_
  rw [Statement.expressionOfFields]
  calc _ = (fun _ e => Statement.expression e)
          <$> .valid ()
          <*> (Expression.read e.write).under (.field "expression") := rfl
    _ = _ := by rw [read]; rfl

theorem Statement.read_loop {kind : LoopKind} {keyword : Location}
    (read : Statement.read s.write = .valid s) :
    Statement.read (Statement.loop kind keyword s).write = .valid (.loop kind keyword s) := by
  have fields : Statement.loopOfFields kind [("kind", .text kind.keyword),
        ("keyword_location", keyword.write), ("body", s.write)] =
      .valid (.loop kind keyword s) := by
    rw [Statement.loopOfFields]
    calc _ = (fun _ keyword body => Statement.loop kind keyword body)
            <$> (asLiteral kind.keyword (.text kind.keyword)).under (.field "kind")
            <*> .valid keyword
            <*> (Statement.read s.write).under (.field "body") := rfl
      _ = _ := by rw [read, asLiteral, if_pos rfl]; rfl
  rw [Statement.write, Statement.read]
  cases kind with
  | counting => exact under_of_valid (.field "for") fields
  | iterating => exact under_of_valid (.field "foreach") fields

theorem Statement.read_other (each : ∀ e ∈ expressions, Expression.read e.write = .valid e)
    (each' : ∀ s ∈ statements, Statement.read s.write = .valid s) :
    Statement.read (Statement.other text expressions statements).write =
      .valid (.other text expressions statements) := by
  have read := listOf_map each
  have read' := listOf_map each'
  rw [Statement.write, Expression.writeAll_eq, Statement.writeAll_eq, Statement.read]
  change (Statement.otherOfFields _).under (.field "other") = _
  refine under_of_valid _ ?_
  rw [Statement.otherOfFields]
  calc _ = (fun _ text expressions statements => Statement.other text expressions statements)
          <$> .valid ()
          <*> .valid text
          <*> (listOf Expression.read (.list (expressions.map (·.write)))).under
            (.field "expressions")
          <*> (listOf Statement.read (.list (statements.map (·.write)))).under
            (.field "statements") := rfl
    _ = _ := by rw [read, read']; rfl

theorem Member.read_classDeclaration {attributes : List String}
    (each : ∀ m ∈ members, Member.read m.write = .valid m) :
    Member.read (Member.classDeclaration name symbol attributes members location).write =
      .valid (.classDeclaration name symbol attributes members location) := by
  have read := listOf_map each
  rw [Member.write, Member.writeAll_eq, Member.read]
  change (Member.classOfFields _).under (.field "class") = _
  refine under_of_valid _ ?_
  rw [Member.classOfFields]
  calc _ = (fun _ name symbol attributes members location =>
            Member.classDeclaration name symbol attributes members location)
          <$> .valid ()
          <*> .valid name
          <*> (nullable asText (.ofText? symbol)).under (.field "symbol")
          <*> (listOf asText (.texts attributes)).under (.field "attributes")
          <*> (listOf Member.read (.list (members.map (·.write)))).under (.field "members")
          <*> .valid location := rfl
    _ = _ := by rw [nullable_ofText?, listOf_texts, read]; rfl

theorem Member.read_methodDeclaration
    (block : nullable Statement.readBlock (Statement.writeBody body) = .valid body) :
    Member.read (Member.methodDeclaration name symbol parameters body location).write =
      .valid (.methodDeclaration name symbol parameters body location) := by
  rw [Member.write, Member.read]
  refine under_of_valid (.field "method") ?_
  calc _ = (fun _ name symbol parameters body location =>
            Member.methodDeclaration name symbol parameters body location)
          <$> .valid ()
          <*> .valid name
          <*> (nullable asText (.ofText? symbol)).under (.field "symbol")
          <*> (listOf asText (.texts parameters)).under (.field "parameters")
          <*> (nullable Statement.readBlock (Statement.writeBody body)).under (.field "body")
          <*> .valid location := rfl
    _ = _ := by rw [nullable_ofText?, listOf_texts, block]; rfl

end Nodes

/-! ## 3. Trees -/

mutual

/-- A written expression reads back. -/
theorem Expression.read_write : ∀ e : Expression, Expression.read e.write = .valid e
  | .invocation _ _ arguments _ _ =>
    Expression.read_invocation (Expression.read_write_of_mem arguments)
  | .identifier _ => by rw [Expression.write, Expression.read]; rfl
  | .lambda _ body expressionBody _ =>
    Expression.read_lambda (Statement.read_writeBody body)
      (Expression.read_writeOption expressionBody)
  | .literal _ => by rw [Expression.write, Expression.read]; rfl

theorem Expression.read_write_of_mem :
    ∀ es : List Expression, ∀ e ∈ es, Expression.read e.write = .valid e
  | [] => List.forall_mem_nil _
  | e :: rest =>
    List.forall_mem_cons.mpr ⟨Expression.read_write e, Expression.read_write_of_mem rest⟩

theorem Expression.read_writeOption : ∀ e : Option Expression,
    nullable Expression.read (Expression.writeOption e) = .valid e
  | none => rfl
  | some e => by
    rw [Expression.writeOption, nullable_of_ne_null e.write_ne_null, Expression.read_write e]
    rfl

/-- A written statement reads back. -/
theorem Statement.read_write : ∀ s : Statement, Statement.read s.write = .valid s
  | .block statements => Statement.read_block (Statement.read_write_of_mem statements)
  | .expression e => Statement.read_expression (Expression.read_write e)
  | .loop _ _ body => Statement.read_loop (Statement.read_write body)
  | .other _ expressions statements =>
    Statement.read_other (Expression.read_write_of_mem expressions)
      (Statement.read_write_of_mem statements)

theorem Statement.read_write_of_mem :
    ∀ ss : List Statement, ∀ s ∈ ss, Statement.read s.write = .valid s
  | [] => List.forall_mem_nil _
  | s :: rest =>
    List.forall_mem_cons.mpr ⟨Statement.read_write s, Statement.read_write_of_mem rest⟩

theorem Statement.read_writeBody : ∀ body : Option (List Statement),
    nullable Statement.readBlock (Statement.writeBody body) = .valid body
  | none => rfl
  | some statements => Statement.nullable_writeBody (Statement.read_write_of_mem statements)

end

mutual

/-- A written member reads back. -/
theorem Member.read_write : ∀ m : Member, Member.read m.write = .valid m
  | .classDeclaration _ _ _ members _ =>
    Member.read_classDeclaration (Member.read_write_of_mem members)
  | .methodDeclaration _ _ _ body _ =>
    Member.read_methodDeclaration (Statement.read_writeBody body)

theorem Member.read_write_of_mem :
    ∀ ms : List Member, ∀ m ∈ ms, Member.read m.write = .valid m
  | [] => List.forall_mem_nil _
  | m :: rest => List.forall_mem_cons.mpr ⟨Member.read_write m, Member.read_write_of_mem rest⟩

end

theorem SourceFile.read_write (file : SourceFile) : SourceFile.read file.write = .valid file := by
  have members : listOf Member.read (.list (file.members.map (·.write))) = .valid file.members :=
    listOf_map fun m _ => m.read_write
  calc SourceFile.read file.write
      = SourceFile.mk
          <$> .valid file.path
          <*> (listOf Member.read (.list (file.members.map (·.write)))).under
            (.field "members") := rfl
    _ = .valid file := by rw [members]; rfl

/-- A written snapshot reads back. -/
theorem read_write (snapshot : Snapshot) : read snapshot.write = .valid snapshot := by
  have types : listOf DeclaredType.read (.list (snapshot.types.map (·.write))) =
      .valid snapshot.types := listOf_map fun type _ => type.read_write
  have files : listOf SourceFile.read (.list (snapshot.files.map (·.write))) =
      .valid snapshot.files := listOf_map fun file _ => file.read_write
  calc read snapshot.write
      = Snapshot.mk
          <$> .valid snapshot.assemblyName
          <*> (listOf DeclaredType.read (.list (snapshot.types.map (·.write)))).under
            (.field "types")
          <*> (listOf SourceFile.read (.list (snapshot.files.map (·.write)))).under
            (.field "syntax_trees") := rfl
    _ = .valid snapshot := by rw [types, files]; rfl

/-- A value that is accepted as a snapshot may be replaced by all that was read from it: the written
snapshot is accepted too, as the same one. -/
theorem ofValue_write {v : Value} {snapshot : Snapshot} (accepted : ofValue v = .ok snapshot) :
    ofValue snapshot.write = ofValue v := by
  rw [accepted, ofValue, read_write]

namespace Example

/-- A call of which only the name is written. -/
def call : Value := .record [("kind", .text "invocation"), ("name", .text "Row")]

/-- A loop without a location whose body is the call alone. -/
def loop : Value :=
  .record [("kind", .text "foreach"),
    ("body", .record [("kind", .text "expression"), ("expression", call)])]

/-- A method whose body is the loop. -/
def method : Value :=
  .record [("kind", .text "method"), ("name", .text "BuildRenderTree"),
    ("body", .record [("statements", .list [loop])])]

/-- A value that leaves out what has a default, writes numbers and truth values in other forms and
an attribute as a text, and has a field that the format does not know. -/
def loose : Value :=
  .record [
    ("origin", .null),
    ("types", .list [.record [
      ("name", .text "Grid"), ("attributes", .list [.text "Ui.Sortable"]),
      ("properties", .list [.record [
        ("name", .text "Rows"), ("type", .text "int"), ("has_setter", .integer 1),
        ("locations", .list [.record [("line", .text "0_12"), ("column", .flag true)]])]])]]),
    ("syntax_trees", .list [.record [("members", .list [method])]])]

/-- The snapshot that the value is. -/
def full : Snapshot where
  types := [{
    name := "Grid"
    attributes := [⟨"Sortable", "Ui"⟩]
    properties := [⟨"Rows", "int", true, [], [⟨"", 12, 1⟩]⟩] }]
  files := [⟨"", [.methodDeclaration "BuildRenderTree" none []
    (some [.loop .iterating {} (.expression (.invocation none "Row" [] none {}))]) {}]⟩]

theorem read_call : Expression.read call = .valid (.invocation none "Row" [] none {}) := by
  rw [Expression.read]
  change (Expression.invocationOfFields _).under _ = _
  rw [Expression.invocationOfFields]
  rfl

theorem read_loop : Statement.read loop =
    .valid (.loop .iterating {} (.expression (.invocation none "Row" [] none {}))) := by
  have body : Statement.read (.record [("kind", .text "expression"), ("expression", call)]) =
      .valid (.expression (.invocation none "Row" [] none {})) := by
    rw [Statement.read]
    change (Statement.expressionOfFields _).under _ = _
    rw [Statement.expressionOfFields]
    change Checked.under _ ((fun _ e => Statement.expression e) <$> .valid () <*>
      (Expression.read call).under _) = _
    rw [read_call]
    rfl
  rw [Statement.read]
  change (Statement.loopOfFields .iterating _).under _ = _
  rw [Statement.loopOfFields]
  change Checked.under _ ((fun _ keyword body => Statement.loop .iterating keyword body) <$>
    .valid () <*> .valid {} <*>
      (Statement.read (.record [("kind", .text "expression"), ("expression", call)])).under _) = _
  rw [body]
  rfl

theorem read_method : Member.read method = .valid (.methodDeclaration "BuildRenderTree" none []
    (some [.loop .iterating {} (.expression (.invocation none "Row" [] none {}))]) {}) := by
  have block : Statement.readBlock (.record [("statements", .list [loop])]) =
      .valid [.loop .iterating {} (.expression (.invocation none "Row" [] none {}))] := by
    rw [Statement.readBlock]
    change Statement.blockOfFields _ = _
    rw [Statement.blockOfFields]
    change (fun _ statements => statements) <$> .valid () <*>
      (List.cons <$> (Statement.read loop).under _ <*> .valid []).under _ = _
    rw [read_loop]
    rfl
  rw [Member.read]
  change Checked.under _ ((fun _ name symbol parameters body location =>
      Member.methodDeclaration name symbol parameters body location) <$>
    .valid () <*> .valid _ <*> .valid _ <*> .valid _ <*>
      ((Statement.readBlock (.record [("statements", .list [loop])])).map some).under _ <*>
      .valid _) = _
  rw [block]
  rfl

theorem ofValue_loose : ofValue loose = .ok full := by
  have file : SourceFile.read (.record [("members", .list [method])]) =
      .valid ⟨"", [.methodDeclaration "BuildRenderTree" none []
        (some [.loop .iterating {} (.expression (.invocation none "Row" [] none {}))]) {}]⟩ := by
    change SourceFile.mk <$> .valid "" <*>
      (List.cons <$> (Member.read method).under (.item 0) <*> .valid []).under
        (.field "members") = _
    rw [read_method]
    rfl
  have read : read loose = .valid full := by
    change Snapshot.mk <$> .valid "" <*> .valid full.types <*>
      (List.cons <$> (SourceFile.read (.record [("members", .list [method])])).under (.item 0) <*>
        .valid []).under (.field "syntax_trees") = _
    rw [file]
    rfl
  rw [ofValue, read]

end Example

/-- What is written for the snapshot of a loosely written value is accepted as that snapshot. -/
theorem ofValue_write_loose :
    ofValue Example.loose = .ok Example.full ∧
      ofValue Example.full.write = ofValue Example.loose :=
  ⟨Example.ofValue_loose, ofValue_write Example.ofValue_loose⟩

end ComponentPasses.Snapshot

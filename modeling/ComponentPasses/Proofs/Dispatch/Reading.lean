import ComponentPasses.Proofs.Dispatch.Plan
import ComponentPasses.Proofs.Dispatch.Program

/-!
# An implementation is read as the program for its parameters

The text of an implementation, read token by token, cut into phrases and taken as a program, is the
program that its parameters make up (`programOf?_implementationText`).  The names and types may be
any that can be written, so nothing in them can end a line, a phrase or a literal early.

The phrases of each part of the text are named first: an arm, a switch, the header of a class.  Of
each part it is then shown that its lines **spell** the phrases out, that the phrases are
**proper**, and what they are **read** as.
-/

namespace ComponentPasses.Dispatch

open Source

/-! ## 1. Arms -/

/-- The phrases of the arm of a parameter. -/
def armPhrases (label : String) (parameter : Parameter) : List Phrase :=
  [.label [.word "case", .text label],
    .statement ([.word "this", .sign '.', .word (writtenWord parameter.name), .sign '=',
      .sign '('] ++ (typeTokens parameter.type ++ [.sign ')', .word "value"])),
    .statement [.word "break"]]

theorem tokensOf?_caseLine (label : String) :
    tokensOf? ("case " ++ stringLiteral label ++ ":").toList =
      some [.word "case", .text label, .sign ':'] := by
  have split : ("case " ++ stringLiteral label ++ ":").toList =
      "case".toList ++ ' ' :: ((stringLiteral label).toList ++ ':' :: []) := by simp
  have keyword : tokensOf? "case".toList = some [.word "case"] := rfl
  have nothing : tokensOf? [] = some [] := rfl
  have ended := tokensOf?_append_sign (c := ':') (tokensOf?_stringLiteral label) rfl nothing
  rw [split, tokensOf?_append_gap keyword rfl ended]
  rfl

theorem tokensOf?_assignmentLine {parameter : Parameter} (writable : Writable parameter) :
    tokensOf? ("this." ++ writtenName parameter.name ++ " = (" ++ Text.trim parameter.type ++
        ")value;").toList =
      some ([.word "this", .sign '.', .word (writtenWord parameter.name), .sign '=', .sign '('] ++
        (typeTokens parameter.type ++ [.sign ')', .word "value", .sign ';'])) := by
  have split : ("this." ++ writtenName parameter.name ++ " = (" ++ Text.trim parameter.type ++
        ")value;").toList =
      "this".toList ++ '.' :: ((writtenName parameter.name).toList ++ ' ' :: ("=".toList ++ ' ' ::
        ([] ++ '(' :: ((Text.trim parameter.type).toList ++ ')' :: ("value".toList ++
          ';' :: []))))) := by
    simp
  have receiver : tokensOf? "this".toList = some [.word "this"] := rfl
  have nothing : tokensOf? [] = some [] := rfl
  have equals : tokensOf? "=".toList = some [.sign '='] := rfl
  have value : tokensOf? ("value".toList ++ ';' :: []) = some [.word "value", .sign ';'] := rfl
  have cast := tokensOf?_append_sign (c := ')') (tokensOf?_trim writable.2).1 rfl value
  have bracket := tokensOf?_append_sign (c := '(') nothing rfl cast
  have assigned := tokensOf?_append_gap (c := ' ') equals rfl bracket
  have target := tokensOf?_append_gap (c := ' ') (tokensOf?_writtenName writable.1) rfl assigned
  rw [split, tokensOf?_append_sign receiver rfl target]
  simp only [List.cons_append, List.nil_append]

/-- The lines of an arm spell out its phrases. -/
theorem spells_arm (label : String) {parameter : Parameter} (writable : Writable parameter) :
    Spells (armLayout (armFor label parameter))
      (Phrase.tokensOfAll (armPhrases label parameter)) := by
  have first := Spells.line (tokensOf?_caseLine label)
  have second := Spells.line (tokensOf?_assignmentLine writable)
  have third : Spells [.line "break;"] [.word "break", .sign ';'] := Spells.line rfl
  have all := first.append (second.append third).indented
  simpa [Phrase.tokensOfAll, Phrase.tokens, armPhrases, armLayout, armFor] using all

/-- Nothing in a type reference ends a head inside brackets, or is a closing bracket. -/
theorem depthAfter?_typeToken {display : String} (h : isTypeText display) {token : Token}
    (present : token ∈ typeTokens display) :
    depthAfter? 1 token = some 1 ∧ token ≠ .sign ')' := by
  have come := (tokensOf?_trim h).2 token present
  cases token with
  | word spelling => exact ⟨rfl, nofun⟩
  | text content => exact come.elim
  | sign c =>
    have type : isTypeChar c = true := List.all_eq_true.mp h.2 c come
    have refused : ∀ d ∈ ['(', ')', ';', '\x7b', '\x7d'], (!isTypeChar d) = true :=
      List.all_eq_true.mp (by decide)
    have apart : ∀ d ∈ ['(', ')', ';', '\x7b', '\x7d'], c ≠ d := by
      rintro d hd rfl
      have other := refused c hd
      rw [type] at other
      cases other
    refine ⟨?_, fun same => apart ')' (by decide) (Token.sign.inj same)⟩
    unfold depthAfter?
    split <;> simp_all

theorem proper_arm (label : String) {parameter : Parameter} (writable : Writable parameter) :
    Phrase.AllProper (armPhrases label parameter) := by
  have opened : depthAfterAll? 0 [.word "this", .sign '.', .word (writtenWord parameter.name),
      .sign '=', .sign '('] = some 1 := rfl
  have inside : depthAfterAll? 1 (typeTokens parameter.type) = some 1 :=
    depthAfterAll?_of_forall fun token h => (depthAfter?_typeToken writable.2 h).1
  have closed : depthAfterAll? 1 [.sign ')', .word "value"] = some 0 := rfl
  have head : IsHead _ := depthAfterAll?_append opened (depthAfterAll?_append inside closed)
  exact ⟨rfl, head, rfl, trivial⟩

theorem castType?_typeTokens {display : String} (h : isTypeText display) :
    castType? (typeTokens display ++ [.sign ')', .word "value"]) = some (typeTokens display) := by
  have inside : ∀ token ∈ typeTokens display, decide (token ≠ .sign ')') = true :=
    fun token present => decide_eq_true (depthAfter?_typeToken h present).2
  rw [castType?, List.takeWhile_append_of_pos inside, List.dropWhile_append_of_pos inside]
  simp

/-- An arm is read as the section of its parameter. -/
theorem readItems?_arm (labelOf : Parameter → String) {parameter : Parameter}
    (writable : Writable parameter) :
    readItems? (armPhrases (labelOf parameter) parameter) = some (armItems labelOf parameter) := by
  have target : isWord (dropAt (writtenWord parameter.name).toList) = true := by
    rw [dropAt_writtenWord]
    exact writable.1
  have member : String.ofList (dropAt (writtenWord parameter.name).toList) =
      memberOf parameter.name := by rw [dropAt_writtenWord, memberOf]
  have assigned : readStatement? ([.word "this", .sign '.', .word (writtenWord parameter.name),
      .sign '=', .sign '('] ++ (typeTokens parameter.type ++ [.sign ')', .word "value"])) =
      some (.assign (memberOf parameter.name) (typeTokens parameter.type)) := by
    simp only [List.cons_append, List.nil_append, readStatement?, target, if_true,
      castType?_typeTokens writable.2, member]
    rfl
  simp only [armPhrases, readItems?, readItem?, assigned]
  rfl

theorem readItems?_append {front back : List Phrase} {items more : List Item}
    (first : readItems? front = some items) (second : readItems? back = some more) :
    readItems? (front ++ back) = some (items ++ more) := by
  induction front generalizing items with
  | nil =>
    cases first
    exact second
  | cons phrase rest ih =>
    simp only [readItems?, Option.bind_eq_some_iff, Option.map_eq_some_iff] at first
    obtain ⟨item, read, others, readOthers, rfl⟩ := first
    simp only [List.cons_append, readItems?, read, ih readOthers, Option.bind_some, Option.map_some]

/-! ## 2. Switches -/

section Tiers

variable (labelOf : Parameter → String) {parameters : List Parameter}
  (writable : ∀ parameter ∈ parameters, Writable parameter)

/-- The phrases of the arms of parameters, and of what comes after them. -/
def tierPhrases (parameters : List Parameter) (last : List Phrase) : List Phrase :=
  parameters.flatMap (fun parameter => armPhrases (labelOf parameter) parameter) ++ last

include writable

theorem spells_tier {layouts : List Layout} {last : List Phrase}
    (spells : Spells layouts (Phrase.tokensOfAll last)) :
    Spells
      ((parameters.map fun parameter => armFor (labelOf parameter) parameter).flatMap armLayout ++
        layouts)
      (Phrase.tokensOfAll (tierPhrases labelOf parameters last)) := by
  rw [tierPhrases, Phrase.tokensOfAll_append, Phrase.tokensOfAll_flatMap, List.flatMap_map]
  exact (Spells.flatMap fun parameter h => spells_arm _ (writable parameter h)).append spells

theorem proper_tier {last : List Phrase} (proper : Phrase.AllProper last) :
    Phrase.AllProper (tierPhrases labelOf parameters last) :=
  Phrase.allProper_append
    (Phrase.allProper_flatMap fun parameter h => proper_arm _ (writable parameter h)) proper

theorem readItems?_tier {last : List Phrase} {items : List Item}
    (read : readItems? last = some items) :
    readItems? (tierPhrases labelOf parameters last) =
      some (parameters.flatMap (armItems labelOf) ++ items) := by
  unfold tierPhrases
  induction parameters with
  | nil => exact read
  | cons parameter rest ih =>
    obtain ⟨first, others⟩ := List.forall_mem_cons.mp writable
    rw [List.flatMap_cons, List.append_assoc,
      readItems?_append (readItems?_arm labelOf first) (ih others), List.flatMap_cons,
      List.append_assoc]

end Tiers

/-- The default of the second switch. -/
def unknownPhrases : List Phrase :=
  [.label [.word "default"],
    .statement [.word "throw", .word "new", .word "ArgumentException", .sign '(', .sign '$',
      .text "Unknown parameter: \x7bname\x7d", .sign ')']]

/-- The second switch. -/
def innerPhrase (parameters : List Parameter) : Phrase :=
  .block [.word "switch", .sign '(', .word "name", .sign '.', .word "ToLowerInvariant", .sign '(',
      .sign ')', .sign ')']
    (tierPhrases (·.loweredName) parameters unknownPhrases)

/-- The default of the first switch. -/
def loweredPhrases (parameters : List Parameter) : List Phrase :=
  [.label [.word "default"], .block [] [innerPhrase parameters, .statement [.word "break"]]]

/-- The first switch. -/
def outerPhrase (parameters : List Parameter) : Phrase :=
  .block [.word "switch", .sign '(', .word "name", .sign ')']
    (tierPhrases (·.name) parameters (loweredPhrases parameters))

section Method

variable {parameters : List Parameter}
  (writable : ∀ parameter ∈ parameters, Writable parameter)
include writable

theorem spells_innerPhrase :
    Spells [loweredSwitch (parameters.map fun parameter => armFor parameter.loweredName parameter)]
      (innerPhrase parameters).tokens := by
  have label : Spells [.line "default:"] [.word "default", .sign ':'] := .line rfl
  have throws : Spells [.line "throw new ArgumentException($\"Unknown parameter: \x7bname\x7d\");"]
      [.word "throw", .word "new", .word "ArgumentException", .sign '(', .sign '$',
        .text "Unknown parameter: \x7bname\x7d", .sign ')', .sign ';'] := .line rfl
  have unknown : Spells _ (Phrase.tokensOfAll unknownPhrases) := label.append throws.indented
  have header : tokensOf? "switch (name.ToLowerInvariant())".toList =
      some [.word "switch", .sign '(', .word "name", .sign '.', .word "ToLowerInvariant",
        .sign '(', .sign ')', .sign ')'] := rfl
  exact Spells.block header (spells_tier (·.loweredName) writable unknown)

theorem spells_outerPhrase :
    Spells
      [exactSwitch (parameters.map fun parameter => armFor parameter.name parameter)
        (parameters.map fun parameter => armFor parameter.loweredName parameter)]
      (outerPhrase parameters).tokens := by
  have label : tokensOf? "default:".toList = some [.word "default", .sign ':'] := rfl
  have leave : Spells [.line "break;"] [.word "break", .sign ';'] := .line rfl
  have lowered := Spells.block label ((spells_innerPhrase writable).append leave)
  have tokens : [Token.word "default", .sign ':'] ++ .sign '\x7b' ::
      ((innerPhrase parameters).tokens ++ [.word "break", .sign ';'] ++ [.sign '\x7d']) =
        Phrase.tokensOfAll (loweredPhrases parameters) := by
    simp [loweredPhrases, Phrase.tokensOfAll, Phrase.tokens]
  rw [tokens] at lowered
  have header : tokensOf? "switch (name)".toList =
      some [.word "switch", .sign '(', .word "name", .sign ')'] := rfl
  exact Spells.block header (spells_tier (·.name) writable lowered)

theorem proper_outerPhrase : (outerPhrase parameters).Proper := by
  have unknown : Phrase.AllProper unknownPhrases := ⟨rfl, rfl, trivial⟩
  have inner : (innerPhrase parameters).Proper :=
    ⟨rfl, proper_tier (·.loweredName) writable unknown⟩
  have lowered : Phrase.AllProper (loweredPhrases parameters) :=
    ⟨rfl, ⟨rfl, inner, rfl, trivial⟩, trivial⟩
  exact ⟨rfl, proper_tier (·.name) writable lowered⟩

theorem readItem?_outerPhrase :
    readItem? (outerPhrase parameters) = some (.switch .name (outerItems parameters)) := by
  have unknown : readItems? unknownPhrases = some [.default, .raise "ArgumentException"] := rfl
  have inner : readItem? (innerPhrase parameters) =
      some (.switch .loweredName (innerItems parameters)) := by
    have tier := readItems?_tier (·.loweredName) writable unknown
    simp only [innerPhrase, readItem?, tier]
    rfl
  have lowered : readItems? (loweredPhrases parameters) =
      some [.default, .block [.switch .loweredName (innerItems parameters), .leave]] := by
    simp only [loweredPhrases, readItems?, readItem?, inner]
    rfl
  have tier := readItems?_tier (·.name) writable lowered
  simp only [outerPhrase, readItem?, tier]
  rfl

end Method

/-! ## 3. Headers -/

/-- A character that the headers of types and namespaces are written with. -/
def isHeaderChar (c : Char) : Bool :=
  isWordChar c || isGap c || ['.', ',', '<', '>'].contains c

/-- A text of such characters can stand in a head. -/
theorem tokensOf?_of_header {s : List Char} (h : ∀ c ∈ s, isHeaderChar c = true) :
    ∃ tokens, tokensOf? s = some tokens ∧ IsHead tokens := by
  have plain : ∀ c ∈ s, isPlainChar c = true := by
    intro c hc
    have signs : ∀ c ∈ ['.', ',', '<', '>'], isPlainChar c = true :=
      List.all_eq_true.mp (by decide)
    have header := h c hc
    simp only [isHeaderChar, Bool.or_eq_true] at header
    rcases header with (word | gap) | sign
    · simp [isPlainChar, word]
    · simp [isPlainChar, gap]
    · exact signs c (List.contains_iff_mem.mp sign)
  obtain ⟨tokens, read, come⟩ := tokensOf?_of_plain plain
  refine ⟨tokens, read, depthAfterAll?_of_forall fun token present => ?_⟩
  have come := come token present
  cases token with
  | word spelling => rfl
  | text content => exact come.elim
  | sign c =>
    have header := h c come
    unfold depthAfter?
    split <;> simp_all [isHeaderChar, isWordChar, isNamePart, isNameStart, isGap]

theorem isHeaderChar_of_mem_writtenName {name : String} (h : isIdentifier name.toList = true) :
    ∀ c ∈ (writtenName name).toList, isHeaderChar c = true := by
  intro c hc
  rcases mem_of_isIdentifier (isIdentifier_writtenName h) hc with rfl | word
  · decide
  · simp [isHeaderChar, word]

theorem isHeaderChar_of_mem_intercalate {separator : String} {parts : List String}
    (between : ∀ c ∈ separator.toList, isHeaderChar c = true)
    (each : ∀ part ∈ parts, ∀ c ∈ part.toList, isHeaderChar c = true) :
    ∀ c ∈ (separator.intercalate parts).toList, isHeaderChar c = true := by
  induction parts with
  | nil => simp
  | cons part rest ih =>
    obtain ⟨first, others⟩ := List.forall_mem_cons.mp each
    cases rest with
    | nil => simpa using first
    | cons next rest =>
      intro c hc
      rw [String.intercalate_cons_cons, String.toList_append, String.toList_append] at hc
      simp only [List.mem_append] at hc
      rcases hc with (hc | hc) | hc
      · exact first c hc
      · exact between c hc
      · exact ih others c hc

/-- The header of a class says that the type is partial, and goes on with what can stand in a
head. -/
theorem exists_typeHeader_eq {info : ClassInfo} (writable : info.Writable)
    (parameters : List Parameter) :
    ∃ rest : String, (∀ c ∈ rest.toList, isHeaderChar c = true) ∧
      (planOf info parameters).typeHeader = "public partial " ++ rest := by
  have keyword : ∀ kind : Snapshot.TypeKind, ∀ c ∈ kind.keyword.toList, isHeaderChar c = true := by
    intro kind
    cases kind <;> exact List.all_eq_true.mp (by decide)
  have each : ∀ part ∈ info.typeParameters.map writtenName,
      ∀ c ∈ part.toList, isHeaderChar c = true := by
    intro part h
    obtain ⟨name, present, rfl⟩ := List.mem_map.mp h
    exact isHeaderChar_of_mem_writtenName (writable.typeParameters name present)
  have between : ∀ c ∈ ", ".toList, isHeaderChar c = true := List.all_eq_true.mp (by decide)
  have inside := isHeaderChar_of_mem_intercalate between each
  let listing :=
    if info.typeParameters.map writtenName = [] then ""
    else "<" ++ ", ".intercalate (info.typeParameters.map writtenName) ++ ">"
  have listed : ∀ c ∈ listing.toList, isHeaderChar c = true := by
    unfold listing
    split
    · exact nofun
    · intro c hc
      simp only [String.toList_append, List.mem_append] at hc
      rcases hc with (hc | hc) | hc
      · exact List.all_eq_true.mp (by decide : "<".toList.all isHeaderChar = true) c hc
      · exact inside c hc
      · exact List.all_eq_true.mp (by decide : ">".toList.all isHeaderChar = true) c hc
  have header : (planOf info parameters).typeHeader =
      "public partial " ++ info.kind.keyword ++ " " ++ writtenName info.name ++ listing := rfl
  refine ⟨info.kind.keyword ++ (" " ++ (writtenName info.name ++ listing)), fun c hc => ?_,
    by simp only [header, String.append_assoc]⟩
  simp only [String.toList_append, List.mem_append] at hc
  rcases hc with hc | hc | hc | hc
  · exact keyword _ c hc
  · exact List.all_eq_true.mp (by decide : " ".toList.all isHeaderChar = true) c hc
  · exact isHeaderChar_of_mem_writtenName writable.name c hc
  · exact listed c hc

/-- The header of a class opens a partial type. -/
theorem tokensOf?_typeHeader {info : ClassInfo} (writable : info.Writable)
    (parameters : List Parameter) :
    ∃ rest, tokensOf? (planOf info parameters).typeHeader.toList =
      some (.word "public" :: .word "partial" :: rest) ∧ IsHead rest := by
  obtain ⟨after, plain, header⟩ := exists_typeHeader_eq writable parameters
  have split : (planOf info parameters).typeHeader.toList =
      "public".toList ++ ' ' :: ("partial".toList ++ ' ' :: after.toList) := by
    simp [header]
  obtain ⟨rest, read, head⟩ := tokensOf?_of_header plain
  have first : tokensOf? "public".toList = some [.word "public"] := rfl
  have second : tokensOf? "partial".toList = some [.word "partial"] := rfl
  refine ⟨rest, ?_, head⟩
  rw [split, tokensOf?_append_gap first rfl (tokensOf?_append_gap second rfl read)]
  rfl

theorem isHeaderChar_of_mem_writtenNamespace {name : String}
    (inside : ∀ part ∈ Text.split '.' name, isIdentifier part.toList = true) :
    ∀ c ∈ (writtenNamespace name).toList, isHeaderChar c = true := by
  have each : ∀ part ∈ (Text.split '.' name).map writtenName,
      ∀ c ∈ part.toList, isHeaderChar c = true := by
    intro part h
    obtain ⟨written, present, rfl⟩ := List.mem_map.mp h
    exact isHeaderChar_of_mem_writtenName (inside written present)
  have between : ∀ c ∈ ".".toList, isHeaderChar c = true := List.all_eq_true.mp (by decide)
  exact isHeaderChar_of_mem_intercalate between each

/-- The header of a namespace opens a namespace. -/
theorem tokensOf?_namespaceHeader {name : String}
    (inside : ∀ part ∈ Text.split '.' name, isIdentifier part.toList = true) :
    ∃ rest, tokensOf? ("namespace " ++ writtenNamespace name).toList =
      some (.word "namespace" :: rest) ∧ IsHead rest := by
  have split : ("namespace " ++ writtenNamespace name).toList =
      "namespace".toList ++ ' ' :: (writtenNamespace name).toList := by simp
  obtain ⟨rest, read, head⟩ := tokensOf?_of_header (isHeaderChar_of_mem_writtenNamespace inside)
  have first : tokensOf? "namespace".toList = some [.word "namespace"] := rfl
  refine ⟨rest, ?_, head⟩
  rw [split, tokensOf?_append_gap first rfl read]
  rfl

/-! ## 4. The implementation -/

/-- What stands in the class is read as its body, with a namespace around it or not. -/
theorem spells_inType {info : ClassInfo} (writable : info.Writable) (parameters : List Parameter)
    {body : List Layout} {phrases : List Phrase}
    (spells : Spells body (Phrase.tokensOfAll phrases)) (proper : Phrase.AllProper phrases) :
    ∃ phrase : Phrase, Spells (inType (planOf info parameters) body) phrase.tokens ∧
      phrase.Proper ∧
      typeBody? [.statement [.word "using", .word "System"], phrase] = some phrases := by
  obtain ⟨rest, header, head⟩ := tokensOf?_typeHeader writable parameters
  have type : Spells [.block (some (planOf info parameters).typeHeader) body]
      (Phrase.tokens (.block (.word "public" :: .word "partial" :: rest) phrases)) :=
    Spells.block header spells
  have whole : IsHead (.word "public" :: .word "partial" :: rest) := head
  rw [inType]
  by_cases global : (planOf info parameters).enclosing = ""
  · rw [if_pos global]
    exact ⟨.block (.word "public" :: .word "partial" :: rest) phrases, type, ⟨whole, proper⟩, rfl⟩
  · have inside : info.enclosing ≠ "" := fun none => global (if_pos none)
    have enclosing : (planOf info parameters).enclosing = writtenNamespace info.enclosing :=
      if_neg inside
    obtain ⟨outer, header', head'⟩ :=
      tokensOf?_namespaceHeader (writable.enclosing.resolve_left inside)
    have whole' : IsHead (.word "namespace" :: outer) := head'
    rw [if_neg global, enclosing]
    refine ⟨.block (.word "namespace" :: outer)
      [.block (.word "public" :: .word "partial" :: rest) phrases], ?_,
      ⟨whole', ⟨whole, proper⟩, trivial⟩, rfl⟩
    rw [← Phrase.tokensOfAll_singleton] at type
    exact Spells.block header' type

/-- The implementation of a class whose names and types can be written is read as the program for
the parameters. -/
theorem programOf?_implementationText {info : ClassInfo} {parameters : List Parameter}
    (writable : info.Writable) (each : ∀ parameter ∈ parameters, Writable parameter) :
    programOf? (implementationText (planOf info parameters)) =
      some (dispatcherProgram parameters) := by
  have imports : Spells [.line "using System;", .blank]
      (Phrase.tokens (.statement [.word "using", .word "System"])) := by
    have first : Spells [.line "using System;"] [.word "using", .word "System", .sign ';'] :=
      .line rfl
    have second : Spells [.blank] [] := .line rfl
    exact first.append second
  have methodHeader : tokensOf?
      ("private void " ++ dispatcherMethod ++ "(string name, object value)").toList =
        some methodHead := rfl
  have body : Spells [exactSwitch (planOf info parameters).exactArms
      (planOf info parameters).loweredArms] (Phrase.tokensOfAll [outerPhrase parameters]) := by
    rw [Phrase.tokensOfAll_singleton]
    exact spells_outerPhrase each
  have method : Spells [.block (some ("private void " ++ dispatcherMethod ++
      "(string name, object value)")) [exactSwitch (planOf info parameters).exactArms
        (planOf info parameters).loweredArms]]
      (Phrase.tokensOfAll [.block methodHead [outerPhrase parameters]]) := by
    rw [Phrase.tokensOfAll_singleton]
    exact Spells.block methodHeader body
  have proper : Phrase.AllProper [.block methodHead [outerPhrase parameters]] :=
    ⟨⟨rfl, proper_outerPhrase each, trivial⟩, trivial⟩
  obtain ⟨phrase, type, proper', read⟩ := spells_inType writable parameters method proper
  have spells : Spells (implementationLayout (planOf info parameters))
      (Phrase.tokensOfAll [.statement [.word "using", .word "System"], phrase]) := by
    rw [Phrase.tokensOfAll, Phrase.tokensOfAll_singleton]
    exact imports.append type
  have phrases : phrasesOf? (implementationText (planOf info parameters)) =
      some [.statement [.word "using", .word "System"], phrase] :=
    phrasesOf?_text (List.cons_ne_nil _ _) spells ⟨rfl, proper', trivial⟩
  rw [programOf?, phrases, Option.bind_some, read, Option.bind_some, methodBody?, if_pos rfl,
    readItems?, readItem?_outerPhrase each]
  rfl

end ComponentPasses.Dispatch

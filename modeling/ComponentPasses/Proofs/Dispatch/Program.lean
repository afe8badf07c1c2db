import ComponentPasses.Dispatch.Emission
import ComponentPasses.Proofs.Source.Outline

/-!
# Dispatchers as programs

The last step of reading turns the phrases of an implementation into the **program** of its
dispatcher: assignments, jumps out of a switch, throws, blocks, and switches on the incoming name as
it is or in lower case.  What cannot be read as one of these is refused.

Running a program on an incoming name has **effects**: it enters a section of a switch, assigns a
member, raises an exception.  A switch looks for the first label with its value, else for its
default, and runs on from there until something leaves it.  How a name is put in lower case is up to
whoever runs the program.
-/

namespace ComponentPasses.Dispatch

open Source

/-! ## 1. Programs -/

/-- What a switch looks at. -/
inductive Subject
  | name
  | loweredName
deriving DecidableEq, Repr

/-- One thing in the body of a dispatcher: a label of a switch or a statement. -/
inductive Item
  | case (label : String)
  | default
  | assign (member : String) (castType : List Token)
  | leave
  | raise (exception : String)
  | block (items : List Item)
  | switch (subject : Subject) (items : List Item)

namespace Item

/-- The value of a label, none for the default; nothing for a statement. -/
def label? : Item → Option (Option String)
  | .case label => some (some label)
  | .default => some none
  | _ => none

mutual

/-- The switches in an item, from the outside in, with what they look at and their case labels. -/
def tiers : Item → List (Subject × List String)
  | .block items => tiersOfAll items
  | .switch subject items =>
    (subject, (items.filterMap label?).filterMap id) :: tiersOfAll items
  | _ => []

/-- The switches in items. -/
def tiersOfAll : List Item → List (Subject × List String)
  | [] => []
  | item :: rest => tiers item ++ tiersOfAll rest

end

end Item

/-! ## 2. Reading -/

/-- The label that a phrase ended by a colon is. -/
def readLabel? : List Token → Option Item
  | [.word "case", .text label] => some (.case label)
  | [.word "default"] => some .default
  | _ => none

/-- The type that a cast of the incoming value casts to, from the tokens after its opening
bracket. -/
def castType? (tokens : List Token) : Option (List Token) :=
  if tokens.dropWhile (· ≠ .sign ')') = [.sign ')', .word "value"] then
    some (tokens.takeWhile (· ≠ .sign ')'))
  else none

/-- The statement that a phrase ended by a semicolon is. -/
def readStatement? : List Token → Option Item
  | [.word "break"] => some .leave
  | [.word "throw", .word "new", .word exception, .sign '(', .sign '$', .text _, .sign ')'] =>
    some (.raise exception)
  | .word "this" :: .sign '.' :: .word target :: .sign '=' :: .sign '(' :: rest =>
    if isWord (dropAt target.toList) then
      (castType? rest).map (.assign (String.ofList (dropAt target.toList)))
    else none
  | _ => none

/-- What the header of a switch looks at. -/
def readSubject? : List Token → Option Subject
  | [.word "switch", .sign '(', .word "name", .sign ')'] => some .name
  | [.word "switch", .sign '(', .word "name", .sign '.', .word "ToLowerInvariant", .sign '(',
      .sign ')', .sign ')'] => some .loweredName
  | _ => none

mutual

/-- The item that a phrase is. -/
def readItem? : Phrase → Option Item
  | .label head => readLabel? head
  | .statement head => readStatement? head
  | .block [] body => (readItems? body).map .block
  | .block head body =>
    (readSubject? head).bind fun subject => (readItems? body).map (.switch subject)

/-- The items that phrases are. -/
def readItems? : List Phrase → Option (List Item)
  | [] => some []
  | phrase :: rest => (readItem? phrase).bind fun item => (readItems? rest).map (item :: ·)

end

/-- The head of the dispatcher method. -/
def methodHead : List Token :=
  [.word "private", .word "void", .word dispatcherMethod, .sign '(', .word "string", .word "name",
    .sign ',', .word "object", .word "value", .sign ')']

/-- The body of the one partial type in a file, which may stand in a namespace. -/
def typeBody? : List Phrase → Option (List Phrase)
  | [.statement [.word "using", .word "System"],
      .block (.word "public" :: .word "partial" :: _) body] => some body
  | [.statement [.word "using", .word "System"],
      .block (.word "namespace" :: _) [.block (.word "public" :: .word "partial" :: _) body]] =>
    some body
  | _ => none

/-- The program of the dispatcher, where it is the one member of the type. -/
def methodBody? : List Phrase → Option (List Item)
  | [.block head body] => if head = methodHead then readItems? body else none
  | _ => none

/-- The program of the dispatcher that a source text holds. -/
def programOf? (s : String) : Option (List Item) :=
  (phrasesOf? s).bind fun phrases => (typeBody? phrases).bind methodBody?

/-! ## 3. Running -/

/-- What running a program does, step by step; sections are numbered by the labels before them. -/
inductive Effect
  | entered (label : Nat)
  | assigned (member : String) (castType : List Token)
  | raised (exception : String)
deriving DecidableEq, Repr

/-- How running ends: at the end, by leaving the innermost switch, or by an exception. -/
inductive Exit
  | onward
  | left
  | raised
deriving DecidableEq, Repr

/-- What running does, and how it ends. -/
structure Outcome where
  effects : List Effect
  exit : Exit
deriving DecidableEq, Repr

namespace Outcome

/-- Nothing is done. -/
def nothing : Outcome := ⟨[], .onward⟩

/-- One thing is done first. -/
def after (effect : Effect) (outcome : Outcome) : Outcome :=
  ⟨effect :: outcome.effects, outcome.exit⟩

/-- The second is done where the first runs to its end. -/
def andThen (first second : Outcome) : Outcome :=
  if first.exit = .onward then ⟨first.effects ++ second.effects, second.exit⟩ else first

/-- A switch is left for what comes after it. -/
def outOfSwitch (outcome : Outcome) : Outcome :=
  if outcome.exit = .left then ⟨outcome.effects, .onward⟩ else outcome

end Outcome

/-- The incoming name, as it is and in lower case. -/
structure Incoming where
  name : String
  loweredName : String

/-- What a switch on a subject looks at. -/
def Incoming.value (incoming : Incoming) : Subject → String
  | .name => incoming.name
  | .loweredName => incoming.loweredName

/-- The label that a switch looks for: that of its value if it is there, else the default. -/
def soughtLabel (value : String) (items : List Item) : Option String :=
  if some value ∈ items.filterMap Item.label? then some value else none

mutual

/-- Runs an item; a label does nothing. -/
def runItem (incoming : Incoming) : Item → Outcome
  | .case _ | .default => .nothing
  | .assign member castType => ⟨[.assigned member castType], .onward⟩
  | .leave => ⟨[], .left⟩
  | .raise exception => ⟨[.raised exception], .raised⟩
  | .block items => runItems incoming none 0 items
  | .switch subject items =>
    (runItems incoming (some (soughtLabel (incoming.value subject) items)) 0 items).outOfSwitch

/-- Runs items in order.  While a label is sought, all is passed over until it comes; `passed`
labels have come before. -/
def runItems (incoming : Incoming) (sought : Option (Option String)) (passed : Nat) :
    List Item → Outcome
  | [] => .nothing
  | item :: rest =>
    match sought, item.label? with
    | none, none => (runItem incoming item).andThen (runItems incoming none passed rest)
    | none, some _ => runItems incoming none (passed + 1) rest
    | some _, none => runItems incoming sought passed rest
    | some label, some found =>
      if found = label then (runItems incoming none (passed + 1) rest).after (.entered passed)
      else runItems incoming sought (passed + 1) rest

end

/-- Runs a program on an incoming name. -/
def runProgram (lower : String → String) (program : List Item) (name : String) : Outcome :=
  runItems ⟨name, lower name⟩ none 0 program

/-! ## 4. The program for parameters -/

/-- The section of a parameter in a switch. -/
def armItems (labelOf : Parameter → String) (parameter : Parameter) : List Item :=
  [.case (labelOf parameter), .assign (memberOf parameter.name) (typeTokens parameter.type), .leave]

/-- A switch's sections for parameters, and what its default holds. -/
def tierItems (labelOf : Parameter → String) (parameters : List Parameter) (last : List Item) :
    List Item :=
  parameters.flatMap (armItems labelOf) ++ .default :: last

/-- What the second switch holds. -/
def innerItems (parameters : List Parameter) : List Item :=
  tierItems (·.loweredName) parameters [.raise "ArgumentException"]

/-- What the first switch holds: its default is the second switch. -/
def outerItems (parameters : List Parameter) : List Item :=
  tierItems (·.name) parameters [.block [.switch .loweredName (innerItems parameters), .leave]]

/-- The program of the dispatcher for parameters. -/
def dispatcherProgram (parameters : List Parameter) : List Item :=
  [.switch .name (outerItems parameters)]

end ComponentPasses.Dispatch

import ComponentPasses.Text.Cut
import ComponentPasses.Text.DecimalDigit
import ComponentPasses.Text.Quoted

/-!
# Reading arguments by a grammar

A grammar says which options a program knows, what each takes, and what its one operand is: either a
single argument, or an argument and everything after it.

**Kinds.**  First each argument is given its kind.  Two dashes divide: what comes after them is no
option.  An argument that begins with a dash is an option by its name, by its name and a value
after an equals sign, by any beginning that fits the long name of one option only, or by the name
of a short option with something glued to it.  What is written together with a short option that
takes nothing names more short options, a letter each.  A negative number, or something with a
blank inside, is no option after all; anything else with a dash is an unknown option.

**Order.**  Then the arguments are read from left to right.  The first that is no option is the
operand.  What has no use, an unknown option or another operand, is left over, which is not yet an
error, since a program may read its arguments by two grammars.
-/

namespace ComponentPasses.CommandLine

/-! ## 1. Grammars -/

/-- What the user is told when a program leaves without doing anything. -/
inductive Notice
  | help
  | version
deriving DecidableEq, Repr

/-- What an option takes: nothing, one value, or any number of them.  An option may also make the
program leave. -/
inductive Taking
  | nothing
  | one
  | several
  | leave (notice : Notice)
deriving DecidableEq, Repr

/-- An option: its names, short ones first, and what it takes. -/
structure OptionRule where
  names : List String
  taking : Taking
deriving DecidableEq, Repr

/-- Whether the option takes a value. -/
def OptionRule.takesValue (rule : OptionRule) : Bool :=
  rule.taking = .one || rule.taking = .several

/-- The option as messages name it. -/
def OptionRule.label (rule : OptionRule) : String :=
  "/".intercalate rule.names

/-- The arguments that a program takes. -/
structure Grammar where
  program : String
  options : List OptionRule
  /-- The name of the operand. -/
  operand : String
  /-- Whether everything after the operand belongs to it. -/
  takesRest : Bool := false

/-- The options by each of their names. -/
def Grammar.named (grammar : Grammar) : List (String × OptionRule) :=
  grammar.options.flatMap fun rule => rule.names.map fun name => (name, rule)

/-- The option of a name. -/
def Grammar.option? (grammar : Grammar) (name : List Char) : Option OptionRule :=
  grammar.named.lookup (String.ofList name)

/-- What is wrong with arguments. -/
inductive UsageFault
  | ambiguousOption (written : String) (names : List String)
  | unexpectedValue (option : OptionRule) (value : String)
  | missingValue (option : OptionRule)
  | missingOperand (name : String)
  | unknownChoice (operand found : String) (choices : List String)
  | unrecognized (written : List String)
deriving DecidableEq, Repr

/-- The fault in words. -/
def UsageFault.message : UsageFault → String
  | .ambiguousOption written names =>
    "ambiguous option: " ++ written ++ " could match " ++ ", ".intercalate names
  | .unexpectedValue option value =>
    "argument " ++ option.label ++ ": ignored explicit argument " ++ Text.quoted value
  | .missingValue option => "argument " ++ option.label ++ ": expected one argument"
  | .missingOperand name => "the following arguments are required: " ++ name
  | .unknownChoice operand found choices =>
    "argument " ++ operand ++ ": invalid choice: " ++ Text.quoted found ++ " (choose from " ++
      ", ".intercalate (choices.map Text.quoted) ++ ")"
  | .unrecognized written => "unrecognized arguments: " ++ " ".intercalate written

/-! ## 2. Kinds of arguments -/

/-- What is written together with the name of an option: nothing, a value assigned to a long name,
or what follows a short name right away or after an equals sign. -/
inductive Attachment
  | bare
  | assigned (value : String)
  | glued (value : List Char)
deriving DecidableEq, Repr

/-- An argument with its kind. -/
inductive Token
  | option (rule : OptionRule) (attachment : Attachment) (written : String)
  | unknown (written : String)
  | argument (written : String)
  | divider
deriving DecidableEq, Repr

/-- The argument as it was written. -/
def Token.written : Token → String
  | .option _ _ written => written
  | .unknown written => written
  | .argument written => written
  | .divider => "--"

/-- Whether a text is digits only, a line end after them aside. -/
def isDigits (s : List Char) : Bool :=
  let digits := if s.getLast? = some '\n' then s.dropLast else s
  !digits.isEmpty && digits.all fun c => (Text.digitValue? c).isSome

/-- Whether what comes after a dash makes a negative number. -/
def isNumber (s : List Char) : Bool :=
  isDigits s ||
    match Text.cutAtFirst '.' s with
    | some (whole, fraction) =>
      (whole.all fun c => (Text.digitValue? c).isSome) && isDigits fraction
    | none => false

/-- The attachment of a long name with, perhaps, a value assigned to it. -/
def Attachment.ofValue? : Option (List Char) → Attachment
  | some value => .assigned (String.ofList value)
  | none => .bare

/-- The attachment of a name with a value after an equals sign. -/
def Attachment.afterEquals (name value : List Char) : Attachment :=
  if ['-', '-'].isPrefixOf name then .assigned (String.ofList value) else .glued value

namespace Grammar

/-- The options that a text which is no option's name may stand for, by the names that fit. -/
def candidates (grammar : Grammar) (s : List Char) : List (String × OptionRule × Attachment) :=
  match s with
  | '-' :: '-' :: _ =>
    let (start, value) := match Text.cutAtFirst '=' s with
      | some (start, value) => (start, some value)
      | none => (s, none)
    grammar.named.filterMap fun (name, rule) =>
      if start.isPrefixOf name.toList then some (name, rule, .ofValue? value) else none
  | dash :: letter :: rest =>
    grammar.named.filterMap fun (name, rule) =>
      if name.toList = [dash, letter] then some (name, rule, .glued rest)
      else if s.isPrefixOf name.toList then some (name, rule, .bare)
      else none
  | _ => []

/-- The option whose whole name a text is, or is up to an equals sign. -/
def wholeName? (grammar : Grammar) (s : List Char) : Option (OptionRule × Attachment) :=
  match grammar.option? s with
  | some rule => some (rule, .bare)
  | none => do
    let (name, value) ← Text.cutAtFirst '=' s
    let rule ← grammar.option? name
    pure (rule, .afterEquals name value)

/-- The kind of an argument that comes before any divider. -/
def kindOf (grammar : Grammar) (written : String) : Except UsageFault Token :=
  match written.toList with
  | '-' :: c :: rest =>
    match grammar.wholeName? ('-' :: c :: rest) with
    | some (rule, attachment) => .ok (.option rule attachment written)
    | none =>
      match grammar.candidates ('-' :: c :: rest) with
      | [(_, rule, attachment)] => .ok (.option rule attachment written)
      | [] =>
        if isNumber (c :: rest) || rest.contains ' ' || c == ' ' then .ok (.argument written)
        else .ok (.unknown written)
      | several => .error (.ambiguousOption written (several.map (·.1)))
  | _ => .ok (.argument written)

/-- The kinds of all arguments; the first pair of dashes divides. -/
def kindsOf (grammar : Grammar) : List String → Except UsageFault (List Token)
  | [] => .ok []
  | written :: rest =>
    if written = "--" then .ok (.divider :: rest.map .argument)
    else do
      let token ← grammar.kindOf written
      let tokens ← grammar.kindsOf rest
      pure (token :: tokens)

end Grammar

/-! ## 3. Reading -/

/-- Why reading stops before its end. -/
inductive Stop
  | left (notice : Notice)
  | refused (fault : UsageFault)
deriving DecidableEq, Repr

/-- What has been read: the options with their values in order, the operand with everything that
belongs to it, and what is left over. -/
structure Reading where
  uses : List (OptionRule × List String) := []
  operand : List String := []
  leftOver : List String := []
deriving Repr

namespace Reading

/-- Whether an option was given. -/
def has (reading : Reading) (rule : OptionRule) : Bool :=
  reading.uses.any (·.1 = rule)

/-- The values of the last use of an option; none where it was not given. -/
def values (reading : Reading) (rule : OptionRule) : List String :=
  match reading.uses.reverse.lookup rule with
  | some values => values
  | none => []

/-- Notes the use of an option, which may make the program leave. -/
def use (reading : Reading) (rule : OptionRule) (values : List String) : Except Stop Reading :=
  match rule.taking with
  | .leave notice => .error (.left notice)
  | _ => .ok { reading with uses := reading.uses ++ [(rule, values)] }

/-- Notes what has no use. -/
def leaveOver (reading : Reading) (written : String) : Reading :=
  { reading with leftOver := reading.leftOver ++ [written] }

end Reading

/-- What an option with its attachment comes to: options that take nothing, and a last option with
its values, or without any where it takes what follows. -/
structure Cluster where
  others : List OptionRule
  last : OptionRule
  values? : Option (List String)

/-- The values that an attachment gives: itself, but two dashes are never a value. -/
def attachedValues (value : String) : List String :=
  if value = "--" then [] else [value]

/-- Reads what is glued to an option.  If the option takes a value, that is its value; if not, the
next letter names one more short option. -/
def Grammar.cluster (grammar : Grammar) (rule : OptionRule) (value : List Char) :
    Except UsageFault Cluster :=
  if rule.takesValue then .ok ⟨[], rule, some (attachedValues (String.ofList value))⟩
  else
    match value with
    | [] => .error (.unexpectedValue rule "")
    | c :: rest =>
      match grammar.option? ['-', c] with
      | none => .error (.unexpectedValue rule (String.ofList (c :: rest)))
      | some next =>
        if rest.isEmpty then .ok ⟨[rule], next, none⟩
        else (grammar.cluster next rest).map fun cluster =>
          { cluster with others := rule :: cluster.others }

/-- What an option and its attachment come to. -/
def Grammar.resolve (grammar : Grammar) (rule : OptionRule) :
    Attachment → Except UsageFault Cluster
  | .bare => .ok ⟨[], rule, none⟩
  | .assigned value =>
    if rule.takesValue then .ok ⟨[], rule, some (attachedValues value)⟩
    else .error (.unexpectedValue rule value)
  | .glued value => grammar.cluster rule value

/-- The arguments at the beginning that are no options, and what comes after them. -/
def splitArguments : List Token → List String × List Token
  | .argument written :: rest =>
    let (arguments, others) := splitArguments rest
    (written :: arguments, others)
  | tokens => ([], tokens)

/-- What comes after the arguments at the beginning is not longer. -/
theorem length_splitArguments_le :
    ∀ tokens : List Token, (splitArguments tokens).2.length ≤ tokens.length
  | [] => by simp [splitArguments]
  | .argument _ :: rest => by
    have := length_splitArguments_le rest
    simp only [splitArguments, List.length_cons]; omega
  | .option .. :: _ => by simp [splitArguments]
  | .unknown _ :: _ => by simp [splitArguments]
  | .divider :: _ => by simp [splitArguments]

/-- The values an option takes from the arguments after it, and what comes after them. -/
def takeValues (rule : OptionRule) (tokens : List Token) :
    Except UsageFault (List String × List Token) :=
  match rule.taking with
  | .nothing | .leave _ => .ok ([], tokens)
  | .several => .ok (splitArguments tokens)
  | .one =>
    match tokens with
    | .argument written :: rest => .ok ([written], rest)
    | _ => .error (.missingValue rule)

/-- Taking values makes what is left no longer. -/
theorem length_le_of_takeValues {rule : OptionRule} {tokens others : List Token}
    {values : List String} (h : takeValues rule tokens = .ok (values, others)) :
    others.length ≤ tokens.length := by
  unfold takeValues at h
  split at h
  · cases h; exact Nat.le_refl _
  · cases h; exact Nat.le_refl _
  · have := length_splitArguments_le tokens
    rwa [Except.ok.inj h] at this
  · split at h
    · cases h; simp
    · cases h

/-- Drops a divider at the beginning. -/
def dropDivider : List Token → List Token
  | .divider :: rest => rest
  | tokens => tokens

namespace Grammar

/-- Notes an option with its attachment; what it takes is taken from the tokens after it. -/
def readOption (grammar : Grammar) (reading : Reading) (rule : OptionRule)
    (attachment : Attachment) (tokens : List Token) :
    Except Stop (Reading × { others : List Token // others.length ≤ tokens.length }) := do
  let cluster ← (grammar.resolve rule attachment).mapError .refused
  match cluster.values? with
  | some values =>
    let reading ← cluster.others.foldlM (·.use · []) reading
    let reading ← reading.use cluster.last values
    pure (reading, ⟨tokens, Nat.le_refl _⟩)
  | none =>
    match taken : takeValues cluster.last tokens with
    | .error fault => throw (.refused fault)
    | .ok (values, others) =>
      let reading ← cluster.others.foldlM (·.use · []) reading
      let reading ← reading.use cluster.last values
      pure (reading, ⟨others, length_le_of_takeValues taken⟩)

/-- Reads tokens when the operand has been read: another argument is left over. -/
def readAfter (grammar : Grammar) (reading : Reading) : List Token → Except Stop Reading
  | [] => .ok reading
  | .option rule attachment _ :: rest => do
    let (reading, ⟨others, _⟩) ← grammar.readOption reading rule attachment rest
    grammar.readAfter reading others
  | token :: rest => grammar.readAfter (reading.leaveOver token.written) rest
termination_by tokens => tokens.length
decreasing_by all_goals (simp only [List.length_cons]; omega)

/-- Reads tokens from the operand on: an argument, perhaps with a divider before it.  Where the
operand is not everything up to the end, a divider right before or after the argument is dropped. -/
def readOperand (grammar : Grammar) (reading : Reading) (dividers : List String)
    (written : String) (rest : List Token) : Except Stop Reading :=
  if grammar.takesRest then
    .ok { reading with operand := dividers ++ written :: rest.map (·.written) }
  else
    grammar.readAfter { reading with operand := [written] } (dropDivider rest)

/-- Reads tokens up to the operand and then the rest. -/
def readTokens (grammar : Grammar) (reading : Reading) : List Token → Except Stop Reading
  | [] => .error (.refused (.missingOperand grammar.operand))
  | .option rule attachment _ :: rest => do
    let (reading, ⟨others, _⟩) ← grammar.readOption reading rule attachment rest
    grammar.readTokens reading others
  | .divider :: .argument written :: rest => grammar.readOperand reading ["--"] written rest
  | .argument written :: rest => grammar.readOperand reading [] written rest
  | token :: rest => grammar.readTokens (reading.leaveOver token.written) rest
termination_by tokens => tokens.length
decreasing_by all_goals (simp only [List.length_cons]; omega)

/-- Reads arguments: first their kinds, then what they say. -/
def read (grammar : Grammar) (arguments : List String) : Except Stop Reading := do
  let tokens ← (grammar.kindsOf arguments).mapError .refused
  grammar.readTokens {} tokens

end Grammar

end ComponentPasses.CommandLine

import ComponentPasses.Text.Blank
import ComponentPasses.Text.Cut
import ComponentPasses.Text.Quoted

/-!
# Names and types in generated source

Names and type references come from outside and are written into generated C# source, so each is
checked first.  What could change the meaning of the text around it is refused with an `EmitError`;
what is merely reserved is made safe.

* An identifier is an optional `@`, a letter or underscore, and letters, digits and underscores; one
  line end may follow.  A keyword is written with an `@` in front.
* A namespace is identifiers joined by points.
* A type reference holds only letters, digits, and the signs that types are written with.  It is
  trimmed.
* A text becomes a literal between double quotes.
-/

namespace ComponentPasses.Source

/-! ## 1. Refusals -/

/-- Why a name or type cannot be written into the source. -/
inductive EmitError
  | invalidIdentifier (name : String)
  | invalidType (display : String)
deriving DecidableEq, Repr

/-- The refusal in words. -/
def EmitError.message : EmitError → String
  | .invalidIdentifier name => "Not a valid identifier: " ++ Text.quoted name
  | .invalidType display => "Not a valid type display string: " ++ Text.quoted display

/-! ## 2. Identifiers -/

/-- The reserved words. -/
def keywords : List String := [
  "abstract", "as", "base", "bool", "break", "byte", "case", "catch", "char", "checked", "class",
  "const", "continue", "decimal", "default", "delegate", "do", "double", "else", "enum", "event",
  "explicit", "extern", "false", "finally", "fixed", "float", "for", "foreach", "goto", "if",
  "implicit", "in", "int", "interface", "internal", "is", "lock", "long", "namespace", "new",
  "null", "object", "operator", "out", "override", "params", "private", "protected", "public",
  "readonly", "ref", "return", "sbyte", "sealed", "short", "sizeof", "stackalloc", "static",
  "string", "struct", "switch", "this", "throw", "true", "try", "typeof", "uint", "ulong",
  "unchecked", "unsafe", "ushort", "using", "virtual", "void", "volatile", "while"]

/-- A letter or underscore. -/
def isNameStart (c : Char) : Bool :=
  ('A' ≤ c && c ≤ 'Z') || ('a' ≤ c && c ≤ 'z') || c == '_'

/-- A letter, digit or underscore. -/
def isNamePart (c : Char) : Bool :=
  isNameStart c || ('0' ≤ c && c ≤ '9')

/-- A letter or underscore, then letters, digits and underscores. -/
def isWord : List Char → Bool
  | [] => false
  | c :: rest => isNameStart c && rest.all isNamePart

/-- Drops one line end from the end. -/
def dropLineEnd (s : List Char) : List Char :=
  if s.getLast? = some '\n' then s.dropLast else s

/-- Drops an `@` from the front. -/
def dropAt : List Char → List Char
  | '@' :: rest => rest
  | s => s

/-- Whether a text may stand as an identifier. -/
def isIdentifier (s : List Char) : Bool :=
  isWord (dropAt (dropLineEnd s))

/-- The identifier as it is written: a keyword has an `@` in front. -/
def escapeIdentifier (name : String) : Except EmitError String :=
  if isIdentifier name.toList then
    .ok (if keywords.contains name then "@" ++ name else name)
  else .error (.invalidIdentifier name)

/-- The namespace as it is written, each of its parts an identifier. -/
def escapeNamespace (name : String) : Except EmitError String := do
  let parts ← (Text.split '.' name).mapM escapeIdentifier
  pure (".".intercalate parts)

/-! ## 3. Types and texts -/

/-- The characters that types are written with. -/
def isTypeChar (c : Char) : Bool :=
  isNamePart c || [' ', '.', ',', ':', '?', '@', '<', '>', '[', ']'].contains c

/-- The type reference as it is written: trimmed. -/
def escapeType (display : String) : Except EmitError String :=
  let trimmed := Text.trim display
  if trimmed ≠ "" ∧ trimmed.toList.all isTypeChar then .ok trimmed
  else .error (.invalidType display)

/-- One character inside a literal. -/
def literalChar (c : Char) : List Char :=
  if c = '\\' ∨ c = '"' then ['\\', c]
  else if c = '\n' then ['\\', 'n']
  else if c = '\r' then ['\\', 'r']
  else [c]

/-- The literal that stands for a text. -/
def stringLiteral (s : String) : String :=
  String.ofList ('"' :: s.toList.flatMap literalChar ++ ['"'])

end ComponentPasses.Source

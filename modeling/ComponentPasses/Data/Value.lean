import ComponentPasses.Data.Binary64
import ComponentPasses.Data.Entries
import ComponentPasses.Text.Quoted

/-!
# Values of data files

Snapshots and settings arrive as data files.  A `Value` is what such a file holds before any
schema has looked at it: null, truth values, integers of any size, binary64 numbers, texts, dates
and times, lists and records.

`Value.display` is the text by which a message names a value it did not expect.
-/

namespace ComponentPasses.Data

/-- What a data file holds before a schema has looked at it. -/
inductive Value
  | null
  | flag (b : Bool)
  | integer (n : Int)
  | real (x : Binary64)
  | text (s : String)
  /-- A date or a time, as it was written. -/
  | moment (written : String)
  | list (items : List Value)
  | record (fields : List (String × Value))
deriving Repr, Inhabited

namespace Value

mutual

/-- A value inside a list or record, where texts stand between quotes. -/
def displayInner : Value → String
  | .null => "None"
  | .flag b => if b then "True" else "False"
  | .integer n => toString n
  | .real x => x.display
  | .text s => Text.quoted s
  | .moment written => written
  | .list items => "[" ++ ", ".intercalate (displayItems items) ++ "]"
  | .record fields => "\x7b" ++ ", ".intercalate (displayFields fields) ++ "\x7d"

/-- The items of a list, each as text. -/
def displayItems : List Value → List String
  | [] => []
  | v :: rest => displayInner v :: displayItems rest

/-- The fields of a record, each as text. -/
def displayFields : List (String × Value) → List String
  | [] => []
  | (name, v) :: rest => (Text.quoted name ++ ": " ++ displayInner v) :: displayFields rest

end

/-- The text by which a message names the value: a text stands for itself. -/
def display : Value → String
  | .text s => s
  | v => displayInner v

/-- A list of texts as a value. -/
def texts (items : List String) : Value :=
  .list (items.map .text)

/-- A text or, where there is none, null. -/
def ofText? (s : Option String) : Value :=
  match s with
  | some s => .text s
  | none => .null

end Value

end ComponentPasses.Data

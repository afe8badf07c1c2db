import ComponentPasses.Console.Journal
import ComponentPasses.Console.Markup
import ComponentPasses.Data.Value
import ComponentPasses.Text.Blank
import ComponentPasses.Text.Cut
import ComponentPasses.Text.Lowercase
import ComponentPasses.Text.Numeral

/-!
# Overriding settings by `key=value`

On the command line a setting is overridden by an item `key=value`.  The first equals sign divides
the item and both sides are trimmed.  What the value is, is read off its text:

* `true` and `false`, in any case, are truth values;
* a text with a comma is the list of its trimmed parts, blank ones left out;
* a text that writes an integer is that integer;
* any other text stands for itself.

A key that comes again keeps its place and takes the new value.  An item without an equals sign
changes nothing and is warned about.
-/

namespace ComponentPasses.Settings

open Data (Value Entries)
open Console (LogRecord)

/-- The value that the trimmed right side of an item writes. -/
def inferValue (s : String) : Value :=
  let word := Text.lowercase s
  if word = "true" then .flag true
  else if word = "false" then .flag false
  else if s.toList.contains ',' then
    .texts (((Text.split ',' s).map Text.trim).filter (· ≠ ""))
  else
    match Text.readInteger? s with
    | some n => .integer n
    | none => .text s

/-- The key and value of an item; none where it has no equals sign. -/
def readItem? (item : String) : Option (String × Value) :=
  (Text.cutAtFirst '=' item.toList).map fun (key, value) =>
    (Text.trim (String.ofList key), inferValue (Text.trim (String.ofList value)))

/-- The warning about an item without an equals sign. -/
def badItemWarning (item : String) : LogRecord :=
  ⟨.warning, "Ignoring invalid config format: '" ++ Console.escape item ++
    "'. Expected 'key=value'."⟩

/-- The overrides of one more item, and the warning if it is not one. -/
def addItem (overrides : Entries Value) (item : String) : Entries Value × List LogRecord :=
  match readItem? item with
  | some (key, value) => (overrides.put key value, [])
  | none => (overrides, [badItemWarning item])

/-- The overrides of a list of items, added to those before it, and the warnings in order. -/
def addItems (overrides : Entries Value) : List String → Entries Value × List LogRecord
  | [] => (overrides, [])
  | item :: rest =>
    let (overrides, warnings) := addItem overrides item
    let (overrides, others) := addItems overrides rest
    (overrides, warnings ++ others)

/-- The overrides that a list of items writes, and the warnings about items that write none. -/
def readOverrides (items : List String) : Entries Value × List LogRecord :=
  addItems [] items

end ComponentPasses.Settings

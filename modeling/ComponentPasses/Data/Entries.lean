/-!
# Entries: keyed values in the order their keys first came

Settings, object fields and indexes are all lists of key and value pairs whose order may show.
Two ways to add a pair keep each key once:

* `put` writes the value of a key that is there, in its place, and appends a new key;
* `putNew` appends a new key and leaves a key that is there alone, so the first value stays.

`get?` reads the value of a key.  Lookup takes the first pair, which on lists built by the two
functions is the only one.
-/

namespace ComponentPasses.Data

/-- Keyed values in the order their keys first came. -/
abbrev Entries (α : Type) := List (String × α)

namespace Entries

variable {α : Type}

/-- The value of a key. -/
def get? (entries : Entries α) (key : String) : Option α :=
  entries.lookup key

/-- Writes the value of a key, in its place if it has one and at the end otherwise. -/
def put (key : String) (value : α) : Entries α → Entries α
  | [] => [(key, value)]
  | (k, v) :: rest => if k = key then (k, value) :: rest else (k, v) :: put key value rest

/-- Writes the value of a key at the end unless the key is there already. -/
def putNew (key : String) (value : α) : Entries α → Entries α
  | [] => [(key, value)]
  | (k, v) :: rest => if k = key then (k, v) :: rest else (k, v) :: putNew key value rest

/-- Writes every pair of a list in turn, so the last value of a key stays. -/
def ofPairs (pairs : List (String × α)) : Entries α :=
  pairs.foldl (fun entries (key, value) => entries.put key value) []

/-- Writes the pairs of the second list over those of the first. -/
def override (entries changes : Entries α) : Entries α :=
  changes.foldl (fun entries (key, value) => entries.put key value) entries

/-- The keys in order. -/
def keys (entries : Entries α) : List String :=
  entries.map (·.1)

end Entries

end ComponentPasses.Data

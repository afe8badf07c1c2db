import ComponentPasses.Schema.Checked
import ComponentPasses.Text.Numeral

/-!
# Reading values by a schema

The readers below turn a `Value` into what a schema asks for.  Texts, lists and records are taken
as they are and nothing else is taken for them.  Integers and truth values are taken in a few other
forms as well:

* an integer may be a truth value, a number without a fraction, or a text that writes an integer;
* a truth value may be the number zero or one, or one of a few words in any ASCII case.

A reader for a part of a record or list is handed the proof that the part stands in the whole, so
that readers of nested data can call each other and still end.
-/

namespace ComponentPasses.Schema

open Data (Value Binary64)

variable {α : Type}

/-! ## 1. Single values -/

/-- A text, and nothing else. -/
def asText : Value → Checked String
  | .text s => .valid s
  | _ => .fail .notText

/-- The numbers beyond those that 64 bits hold begin here. -/
def integerBound : Int := Int.pow 2 63

/-- A number without a fraction as an integer. -/
def wholeNumber : Binary64 → Checked Int
  | .finite negative mantissa exponent =>
    match Binary64.integer? negative mantissa exponent with
    | none => .fail .fraction
    | some n => if -integerBound < n ∧ n < integerBound then .valid n else .fail .oversizedInteger
  | _ => .fail .notFinite

/-- An integer, or what may be taken for one. -/
def asInteger : Value → Checked Int
  | .integer n => .valid n
  | .flag b => .valid (if b then 1 else 0)
  | .real x => wholeNumber x
  | .text s =>
    match Text.readAsciiInteger s with
    | .value n => .valid n
    | .unreadable => .fail .unreadableInteger
    | .oversized => .fail .oversizedInteger
  | _ => .fail .notInteger

/-- An integer that is not negative. -/
def asNatural (v : Value) : Checked Nat :=
  (asInteger v).andThen fun n => if 0 ≤ n then .valid n.toNat else .fail .belowZero

/-- The words for true, in lower case. -/
def trueWords : List String := ["1", "true", "t", "yes", "y", "on"]

/-- The words for false, in lower case. -/
def falseWords : List String := ["0", "false", "f", "no", "n", "off"]

/-- The truth value an integer stands for: zero and one stand for one.  An integer beyond 64 bits
is not even taken for a misspelled truth value. -/
def flagOfInteger (n : Int) : Checked Bool :=
  if n = 0 then .valid false
  else if n = 1 then .valid true
  else if -integerBound ≤ n ∧ n < integerBound then .fail .unreadableFlag
  else .fail .notFlag

/-- The truth value a number with a point stands for, which must have no fraction. -/
def flagOfReal : Binary64 → Checked Bool
  | .finite negative mantissa exponent =>
    match Binary64.integer? negative mantissa exponent with
    | some n => if n = -integerBound then .fail .notFlag else flagOfInteger n
    | none => .fail .notFlag
  | _ => .fail .notFlag

/-- A truth value, or what may be taken for one. -/
def asFlag : Value → Checked Bool
  | .flag b => .valid b
  | .integer n => flagOfInteger n
  | .real x => flagOfReal x
  | .text s =>
    let word := s.toLower
    if trueWords.contains word then .valid true
    else if falseWords.contains word then .valid false
    else .fail .unreadableFlag
  | _ => .fail .notFlag

/-- One of a few texts. -/
def asChoice (choices : List (String × α)) : Value → Checked α
  | .text s =>
    match choices.lookup s with
    | some a => .valid a
    | none => .fail (.notChoice (choices.map (·.1)))
  | _ => .fail (.notChoice (choices.map (·.1)))

/-- One fixed text. -/
def asLiteral (expected : String) : Value → Checked Unit
  | .text s => if s = expected then .valid () else .fail (.notLiteral expected)
  | _ => .fail (.notLiteral expected)

/-- A value or null. -/
def nullable (read : Value → Checked α) : Value → Checked (Option α)
  | .null => .valid none
  | v => (read v).map some

/-! ## 2. Lists -/

/-- The items of a list from the one with the given index on. -/
def itemsFrom (index : Nat) :
    (items : List Value) → ((v : Value) → v ∈ items → Checked α) → Checked (List α)
  | [], _ => .valid []
  | v :: rest, read =>
    List.cons <$> (read v (by simp)).under (.item index)
      <*> itemsFrom (index + 1) rest fun w h => read w (by simp [h])

/-- A list whose items are read by a reader that knows they stand in it. -/
def listWith (v : Value) (read : (w : Value) → sizeOf w < sizeOf v → Checked α) :
    Checked (List α) :=
  match v with
  | .list items => itemsFrom 0 items fun w h => read w (by
      have := List.sizeOf_lt_of_mem h
      simp only [Value.list.sizeOf_spec]; omega)
  | _ => .fail .notList

/-- A list whose items are all read the same way. -/
def listOf (read : Value → Checked α) (v : Value) : Checked (List α) :=
  listWith v fun w _ => read w

/-! ## 3. Records -/

/-- The fields of a record by name. -/
abbrev Fields := List (String × Value)

/-- A field that is found stands inside the record. -/
theorem sizeOf_lt_of_lookup {name : String} {v : Value} :
    ∀ {fields : Fields}, fields.lookup name = some v → sizeOf v < sizeOf fields
  | (key, w) :: rest, h => by
    simp only [List.lookup_cons] at h
    split at h
    · cases h
      simp only [List.cons.sizeOf_spec, Prod.mk.sizeOf_spec]; omega
    · have := sizeOf_lt_of_lookup h
      simp only [List.cons.sizeOf_spec]; omega

/-- A field that must be there. -/
def requiredWith (fields : Fields) (name : String)
    (read : (v : Value) → sizeOf v < sizeOf fields → Checked α) : Checked α :=
  Checked.under (.field name) <|
    match h : fields.lookup name with
    | some v => read v (sizeOf_lt_of_lookup h)
    | none => .fail .missing

/-- A field that has a default. -/
def defaultedWith (fields : Fields) (name : String) (default : α)
    (read : (v : Value) → sizeOf v < sizeOf fields → Checked α) : Checked α :=
  Checked.under (.field name) <|
    match h : fields.lookup name with
    | some v => read v (sizeOf_lt_of_lookup h)
    | none => .valid default

/-- A field that must be there, read on its own. -/
def required (fields : Fields) (name : String) (read : Value → Checked α) : Checked α :=
  requiredWith fields name fun v _ => read v

/-- A field that has a default, read on its own. -/
def defaulted (fields : Fields) (name : String) (default : α) (read : Value → Checked α) :
    Checked α :=
  defaultedWith fields name default fun v _ => read v

theorem sizeOf_lt_record (fields : Fields) : sizeOf fields < sizeOf (Value.record fields) := by
  simp only [Value.record.sizeOf_spec]
  omega

/-- A record for the named model, read by a reader that knows its fields stand in it. -/
def modelWith (model : String) (v : Value)
    (read : (fields : Fields) → sizeOf fields < sizeOf v → Checked α) : Checked α :=
  match v with
  | .record fields => read fields (sizeOf_lt_record fields)
  | _ => .fail (.notModel model)

/-- A record for the named model. -/
def model (name : String) (read : Fields → Checked α) (v : Value) : Checked α :=
  modelWith name v fun fields _ => read fields

end ComponentPasses.Schema

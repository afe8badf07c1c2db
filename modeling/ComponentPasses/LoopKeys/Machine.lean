import ComponentPasses.Settings.Basic
import ComponentPasses.Snapshot.Syntax

/-!
# The key machine

A loop must give each element that it renders at its top level a key.  To the check, a loop body is
a sequence of calls, each of which has a **role**: it opens an element, closes one, gives the
current one a key, hands the builder to a helper, or does not matter.

The machine counts how deep in elements it is.  It starts outside any, at level -1; the first open
call takes it to level 0, the top level.  There it notes whether a key call has come since the
element was opened.  A close call at the top level without a key is a **report**.
-/

namespace ComponentPasses.LoopKeys

open Snapshot (Expression)

/-! ## 1. Roles -/

/-- What a call means to the machine. -/
inductive Role
  | opening
  | closing
  | keying
  | helper
  | other
deriving DecidableEq, Repr, Inhabited

/-- The name of a role. -/
def Role.name : Role → String
  | .opening => "open"
  | .closing => "close"
  | .keying => "set_key"
  | .helper => "helper"
  | .other => "other"

/-- Whether an argument is an identifier that denotes a builder. -/
def isBuilderArgument (settings : Settings) : Expression → Bool
  | .identifier name => settings.isBuilderName name
  | _ => false

/-- The role that a member access has by the name it calls. -/
def roleOfName? (settings : Settings) (name : String) : Option Role :=
  if settings.openCalls.contains name then some .opening
  else if settings.closeCalls.contains name then some .closing
  else if settings.setKeyCalls.contains name then some .keying
  else none

/-- The role of a call.  Only a member access opens, closes or keys; a call with a builder among its
arguments is a helper call otherwise. -/
def roleOf (settings : Settings) (receiver : Option String) (name : String)
    (arguments : List Expression) : Role :=
  let named := if receiver.isSome then roleOfName? settings (Snapshot.simpleName name) else none
  named.getD (if arguments.any (isBuilderArgument settings) then .helper else .other)

/-! ## 2. The machine -/

/-- The state of a loop's walk: how deep in elements it is, and whether the current top-level
element has a key. -/
structure Machine where
  level : Int := -1
  keyed : Bool := false
deriving DecidableEq, Repr, Inhabited

namespace Machine

/-- Whether a call with the role makes a report. -/
def reports (machine : Machine) (role : Role) : Bool :=
  role = .closing && machine.level = 0 && !machine.keyed

/-- The state after a call with the role. -/
def step (machine : Machine) : Role → Machine
  | .opening => ⟨machine.level + 1, if machine.level + 1 = 0 then false else machine.keyed⟩
  | .closing => ⟨machine.level - 1, machine.keyed⟩
  | .keying => ⟨machine.level, machine.keyed || machine.level = 0⟩
  | .helper => machine
  | .other => machine

/-- The state after a sequence of calls, and the number of reports. -/
def run (machine : Machine) : List Role → Machine × Nat
  | [] => (machine, 0)
  | role :: rest =>
    let (final, reports) := (machine.step role).run rest
    (final, if machine.reports role then reports + 1 else reports)

end Machine

end ComponentPasses.LoopKeys

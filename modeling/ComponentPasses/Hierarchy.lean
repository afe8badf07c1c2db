import ComponentPasses.Console.Journal
import ComponentPasses.Snapshot.Compilation
import ComponentPasses.Text.Blank
import ComponentPasses.Text.Cut

/-!
# Type hierarchies

The hierarchy of a type is the chain from the type itself through its bases, most derived first.
It fixes the order of members: those of a derived type come before those they hide.

A base is written as a display string, perhaps with type arguments; `baseKey` turns that into the
metadata name it was declared under, which needs only the number of arguments.  The chain ends at a
type without a base, or whose base is not declared in the compilation.  In a well-formed program no
base comes twice; where one does, the chain ends before it and `repeated` holds it.

The walk ends because each step uses up a type of the index: a name that is met again stops it.
-/

namespace ComponentPasses

open Snapshot (DeclaredType Compilation)
open Data (Entries)

/-! ## 1. References to bases -/

/-- The number of type arguments in a list of them, from the text after its opening bracket; `depth`
brackets are open inside it and `arity` arguments have begun. -/
def argumentCount (depth arity : Nat) : List Char → Nat
  | [] => arity
  | c :: rest =>
    if c = '<' then argumentCount (depth + 1) arity rest
    else if c = '>' then if depth = 0 then arity else argumentCount (depth - 1) arity rest
    else if c = ',' ∧ depth = 0 then argumentCount depth (arity + 1) rest
    else argumentCount depth arity rest

/-- The metadata name under which a base, written as a display string, was declared. -/
def baseKey (reference : String) : String :=
  match Text.cutAtFirst '<' reference.toList with
  | none => Text.trim reference
  | some (name, arguments) =>
    Snapshot.withArity (Text.trim (String.ofList name)) (argumentCount 0 1 arguments)

/-! ## 2. The chain -/

/-- The bases above a type, nearest first, and the base that came a second time, if one did. -/
structure Ancestry where
  bases : List DeclaredType
  repeated : Option DeclaredType

/-- The key of a type's base, if it names one. -/
def Snapshot.DeclaredType.baseKey? (type : DeclaredType) : Option String :=
  (Snapshot.given? type.base?).map baseKey

/-- A list with fewer elements that pass a test loses one when a passing element stops passing. -/
theorem unseen_lt {α : Type} {key : String} {value : α} (seen : List String) :
    ∀ {index : Entries α}, index.get? key = some value → ¬ seen.contains key →
      (index.filter fun entry => !(key :: seen).contains entry.1).length <
        (index.filter fun entry => !seen.contains entry.1).length
  | (k, v) :: rest, found, fresh => by
    have shrinks : ∀ entries : Entries α,
        (entries.filter fun entry => !(key :: seen).contains entry.1).length ≤
          (entries.filter fun entry => !seen.contains entry.1).length := by
      intro entries
      induction entries with
      | nil => simp
      | cons e es ih =>
        simp only [List.filter_cons, List.contains_cons]
        cases h : seen.contains e.1 <;> cases h' : e.1 == key <;>
          simp only [Bool.or_true, Bool.or_false, Bool.not_true, Bool.not_false, if_true,
            Bool.false_eq_true, if_false, List.length_cons] <;>
          simp only [List.contains_cons] at ih <;> omega
    simp only [Entries.get?, List.lookup_cons] at found
    split at found
    · rename_i same
      have same : key = k := by simpa using same
      subst same
      have := shrinks rest
      simp only [List.contains_cons] at this
      simp only [List.filter_cons, List.contains_cons, BEq.rfl, Bool.true_or, Bool.not_true,
        Bool.false_eq_true, if_false]
      simp only [Bool.not_eq_true] at fresh
      simp only [fresh, Bool.not_false, if_true, List.length_cons]
      omega
    · have ih := unseen_lt seen (show Entries.get? rest key = some value from found) fresh
      simp only [List.filter_cons, List.contains_cons] at ih ⊢
      cases h : seen.contains k <;> cases h' : k == key <;>
        simp only [Bool.or_true, Bool.or_false, Bool.not_true, Bool.not_false, if_true,
          Bool.false_eq_true, if_false, List.length_cons] <;> omega

namespace Hierarchy

/-- Climbs from a type to its bases; `seen` holds the metadata names met so far. -/
def climb (compilation : Compilation) (seen : List String) (type : DeclaredType) : Ancestry :=
  match type.baseKey? with
  | none => ⟨[], none⟩
  | some key =>
    match _found : compilation.type? key with
    | none => ⟨[], none⟩
    | some base =>
      if _fresh : seen.contains key then ⟨[], some base⟩
      else
        let above := climb compilation (key :: seen) base
        ⟨base :: above.bases, above.repeated⟩
termination_by (compilation.types.filter fun entry => !seen.contains entry.1).length
decreasing_by exact unseen_lt seen ‹_› ‹_›

end Hierarchy

/-- A type and its bases, most derived first. -/
structure Hierarchy where
  type : DeclaredType
  bases : List DeclaredType
  repeated : Option DeclaredType

namespace Hierarchy

/-- The hierarchy of a type in a compilation. -/
def ofType (compilation : Compilation) (type : DeclaredType) : Hierarchy :=
  let above := climb compilation [type.metadataName] type
  ⟨type, above.bases, above.repeated⟩

/-- The types of the chain, most derived first. -/
def chain (hierarchy : Hierarchy) : List DeclaredType :=
  hierarchy.type :: hierarchy.bases

/-- The warning about a base that comes a second time. -/
def warnings (hierarchy : Hierarchy) : List Console.LogRecord :=
  match hierarchy.repeated with
  | none => []
  | some base =>
    [⟨.warning, "Cyclic base type chain at '" ++ base.qualifiedName ++ "' (from '" ++
      hierarchy.type.qualifiedName ++ "')."⟩]

end Hierarchy

end ComponentPasses

import ComponentPasses.Proofs.Hierarchy
import ComponentPasses.Proofs.Snapshot.MetadataName
import Mathlib.Algebra.GroupWithZero.Nat

/-!
# References to generic bases

A generic base is written as its name followed by type arguments in angle brackets, and it is looked
up by its name and the number of its type parameters.  The scan that counts the arguments knows
angle brackets and commas and nothing else of how types are written.

**What is counted.**  Inside angle brackets of its own an argument counts for nothing
(`argumentCount_text_deep`), so nested instantiations do no harm.  Outside of them every comma
counts, and besides those between arguments there are the commas in the rank of an array: `int[,]`
counts as two arguments (`argumentCount_text`).

**What is found.**  So a reference finds the type that it means exactly if no argument has an array
of more than one dimension outside angle brackets, and the name of the type has no blank at its ends
(`generic_base_resolves_iff`).  Where one has, the chain of bases ends too early
(`generic_base_lost_at_rank`).
-/

namespace ComponentPasses

open Snapshot (Compilation DeclaredType given? withArity)

/-! ## 1. How type arguments are written -/

/-- The characters that the scan looks for. -/
def IsMark (c : Char) : Prop :=
  c = '<' ∨ c = '>' ∨ c = ','

instance : DecidablePred IsMark := fun c =>
  inferInstanceAs (Decidable (c = '<' ∨ c = '>' ∨ c = ','))

/-- A name, perhaps qualified: a text that has no mark in it. -/
structure PlainName where
  text : String
  plain : ∀ c ∈ text.toList, ¬ IsMark c

/-- The name with a text whose characters are looked through one by one. -/
def PlainName.ofText (text : String)
    (plain : text.toList.all (fun c => ¬ IsMark c) = true) : PlainName :=
  ⟨text, by simpa using plain⟩

/-- A type as it is written among type arguments: a name, an instantiation of a generic type, a type
inside another, a nullable type, an array with the number of commas in its rank, or one of these
with blanks around it. -/
inductive TypeDisplay
  | name (name : PlainName)
  | generic (name : PlainName) (arguments : List TypeDisplay)
  | inside (outer inner : TypeDisplay)
  | nullable (type : TypeDisplay)
  | array (element : TypeDisplay) (commas : Nat)
  | spaced (before : Nat) (type : TypeDisplay) (after : Nat)

namespace TypeDisplay

mutual

/-- The text of a type. -/
def text : TypeDisplay → List Char
  | .name head => head.text.toList
  | .generic head arguments => head.text.toList ++ '<' :: (textOfAll arguments ++ ['>'])
  | .inside outer inner => outer.text ++ '.' :: inner.text
  | .nullable type => type.text ++ ['?']
  | .array element commas => element.text ++ '[' :: (List.replicate commas ',' ++ [']'])
  | .spaced before type after =>
    List.replicate before ' ' ++ (type.text ++ List.replicate after ' ')

/-- The text of type arguments, joined by commas. -/
def textOfAll : List TypeDisplay → List Char
  | [] => []
  | [argument] => argument.text
  | argument :: next :: rest => argument.text ++ ',' :: textOfAll (next :: rest)

end

/-- The commas in the ranks of arrays that stand outside any angle brackets. -/
def rankCommas : TypeDisplay → Nat
  | .name _ => 0
  | .generic _ _ => 0
  | .inside outer inner => outer.rankCommas + inner.rankCommas
  | .nullable type => type.rankCommas
  | .array element commas => element.rankCommas + commas
  | .spaced _ type _ => type.rankCommas

end TypeDisplay

open TypeDisplay

/-- The reference to an instantiation of a generic type. -/
def instantiation (name : String) (arguments : List TypeDisplay) : String :=
  name ++ "<" ++ String.ofList (textOfAll arguments) ++ ">"

/-! ## 2. What the scan counts -/

variable {depth arity : Nat}

theorem argumentCount_plain {front : List Char} (plain : ∀ c ∈ front, ¬ IsMark c)
    (rest : List Char) :
    argumentCount depth arity (front ++ rest) = argumentCount depth arity rest := by
  induction front with
  | nil => rfl
  | cons c others ih =>
    obtain ⟨noMark, plain⟩ := List.forall_mem_cons.mp plain
    simp only [IsMark, not_or] at noMark
    rw [List.cons_append, argumentCount, if_neg noMark.1, if_neg noMark.2.1,
      if_neg fun comma => noMark.2.2 comma.1, ih plain]

theorem argumentCount_cons_plain {c : Char} (plain : ¬ IsMark c) (rest : List Char) :
    argumentCount depth arity (c :: rest) = argumentCount depth arity rest :=
  argumentCount_plain (List.forall_mem_singleton.mpr plain) rest

theorem argumentCount_blanks (n : Nat) (rest : List Char) :
    argumentCount depth arity (List.replicate n ' ' ++ rest) = argumentCount depth arity rest :=
  argumentCount_plain (fun _ blank => List.eq_of_mem_replicate blank ▸ by decide) rest

/-- Inside angle brackets commas do not count. -/
theorem argumentCount_commas_deep (n : Nat) (rest : List Char) :
    argumentCount (depth + 1) arity (List.replicate n ',' ++ rest) =
      argumentCount (depth + 1) arity rest := by
  induction n with
  | zero => rfl
  | succ n ih => rw [List.replicate_succ, List.cons_append, argumentCount, ← ih]; rfl

/-- Outside angle brackets each comma counts. -/
theorem argumentCount_commas (n : Nat) (rest : List Char) :
    argumentCount 0 arity (List.replicate n ',' ++ rest) = argumentCount 0 (arity + n) rest := by
  induction n generalizing arity with
  | zero => rfl
  | succ n ih =>
    have first : argumentCount 0 arity (',' :: (List.replicate n ',' ++ rest)) =
        argumentCount 0 (arity + 1) (List.replicate n ',' ++ rest) := rfl
    rw [List.replicate_succ, List.cons_append, first, ih, Nat.add_right_comm, Nat.add_assoc]

mutual

/-- Inside angle brackets a type counts for nothing. -/
theorem argumentCount_text_deep (depth arity : Nat) (rest : List Char) :
    ∀ type : TypeDisplay, argumentCount (depth + 1) arity (type.text ++ rest) =
      argumentCount (depth + 1) arity rest
  | .name head => argumentCount_plain head.plain rest
  | .generic head arguments => by
    rw [text, List.append_assoc, argumentCount_plain head.plain, List.cons_append,
      List.append_assoc]
    exact argumentCount_textOfAll_deep (depth + 1) arity ('>' :: rest) arguments
  | .inside outer inner => by
    rw [text, List.append_assoc, argumentCount_text_deep depth arity _ outer, List.cons_append,
      argumentCount_cons_plain (by decide), argumentCount_text_deep depth arity rest inner]
  | .nullable type => by
    rw [text, List.append_assoc, argumentCount_text_deep depth arity _ type]
    exact argumentCount_cons_plain (by decide) rest
  | .array element commas => by
    rw [text, List.append_assoc, argumentCount_text_deep depth arity _ element, List.cons_append,
      argumentCount_cons_plain (by decide), List.append_assoc, argumentCount_commas_deep]
    exact argumentCount_cons_plain (by decide) rest
  | .spaced before type after => by
    rw [text, List.append_assoc, argumentCount_blanks, List.append_assoc,
      argumentCount_text_deep depth arity _ type, argumentCount_blanks]

/-- Inside angle brackets type arguments count for nothing. -/
theorem argumentCount_textOfAll_deep (depth arity : Nat) (rest : List Char) :
    ∀ arguments : List TypeDisplay,
      argumentCount (depth + 1) arity (textOfAll arguments ++ rest) =
        argumentCount (depth + 1) arity rest
  | [] => rfl
  | [argument] => argumentCount_text_deep depth arity rest argument
  | argument :: next :: others => by
    rw [textOfAll, List.append_assoc, argumentCount_text_deep depth arity _ argument]
    exact argumentCount_textOfAll_deep depth arity rest (next :: others)

end

/-- Outside angle brackets a type counts for the commas in the ranks of its arrays. -/
theorem argumentCount_text (arity : Nat) (rest : List Char) : ∀ type : TypeDisplay,
    argumentCount 0 arity (type.text ++ rest) = argumentCount 0 (arity + type.rankCommas) rest
  | .name head => argumentCount_plain head.plain rest
  | .generic head arguments => by
    rw [text, List.append_assoc, argumentCount_plain head.plain, List.cons_append,
      List.append_assoc]
    exact argumentCount_textOfAll_deep 0 arity ('>' :: rest) arguments
  | .inside outer inner => by
    rw [text, List.append_assoc, argumentCount_text arity _ outer, List.cons_append,
      argumentCount_cons_plain (by decide), argumentCount_text _ rest inner, rankCommas,
      Nat.add_assoc]
  | .nullable type => by
    rw [text, List.append_assoc, argumentCount_text arity _ type]
    exact argumentCount_cons_plain (by decide) rest
  | .array element commas => by
    rw [text, List.append_assoc, argumentCount_text arity _ element, List.cons_append,
      argumentCount_cons_plain (by decide), List.append_assoc, argumentCount_commas, rankCommas,
      Nat.add_assoc]
    exact argumentCount_cons_plain (by decide) rest
  | .spaced before type after => by
    rw [text, List.append_assoc, argumentCount_blanks, List.append_assoc,
      argumentCount_text arity _ type, argumentCount_blanks, rankCommas]

/-- Outside angle brackets type arguments count for the commas between them and those in the ranks
of their arrays. -/
theorem argumentCount_textOfAll (arity : Nat) (rest : List Char) (argument : TypeDisplay)
    (others : List TypeDisplay) :
    argumentCount 0 arity (textOfAll (argument :: others) ++ rest) =
      argumentCount 0
        (arity + others.length + ((argument :: others).map rankCommas).sum) rest := by
  induction others generalizing argument arity with
  | nil =>
    rw [textOfAll, argumentCount_text]
    rfl
  | cons next others ih =>
    rw [textOfAll, List.append_assoc, argumentCount_text, List.cons_append]
    have comma : argumentCount 0 (arity + argument.rankCommas)
          (',' :: (textOfAll (next :: others) ++ rest)) =
        argumentCount 0 (arity + argument.rankCommas + 1)
          (textOfAll (next :: others) ++ rest) := rfl
    rw [comma, ih, List.length_cons, List.map_cons (l := next :: others), List.sum_cons]
    congr 1
    omega

/-! ## 3. The key of a reference -/

/-- The key of an instantiation has the name without blanks at its ends, and counts the arguments
and the commas in the ranks of their arrays. -/
theorem baseKey_instantiation {name : String} (free : '<' ∉ name.toList)
    {arguments : List TypeDisplay} (some : arguments ≠ []) :
    baseKey (instantiation name arguments) =
      withArity (Text.trim name) (arguments.length + (arguments.map rankCommas).sum) := by
  have characters : (instantiation name arguments).toList =
      name.toList ++ '<' :: (textOfAll arguments ++ ['>']) := by
    simp [instantiation]
  obtain ⟨argument, others, rfl⟩ := List.exists_cons_of_ne_nil some
  rw [baseKey, characters, Text.cutAtFirst_append free]
  dsimp only
  rw [argumentCount_textOfAll, String.ofList_toList, List.length_cons]
  congr 1
  show 1 + others.length + _ = _
  omega

/-! ## 4. What a reference finds -/

/-- A reference can be resolved: its name has no blank at its ends, and no argument has an array of
more than one dimension outside angle brackets. -/
def Resolvable (name : String) (arguments : List TypeDisplay) : Prop :=
  Text.trim name = name ∧ ∀ argument ∈ arguments, argument.rankCommas = 0

/-- The key of an instantiation is the metadata name of the generic type exactly if the reference
can be resolved. -/
theorem baseKey_instantiation_eq_iff {generic : DeclaredType}
    (free : '<' ∉ generic.qualifiedName.toList) {arguments : List TypeDisplay}
    (some : arguments ≠ []) (arity : arguments.length = generic.typeParameters.length) :
    baseKey (instantiation generic.qualifiedName arguments) = generic.metadataName ↔
      Resolvable generic.qualifiedName arguments := by
  have positive : 0 < arguments.length := List.length_pos_iff.mpr some
  have noCommas : (arguments.map rankCommas).sum = 0 ↔
      ∀ argument ∈ arguments, argument.rankCommas = 0 := by
    rw [List.sum_eq_zero_iff_forall_eq_nat, List.forall_mem_map]
  rw [baseKey_instantiation free some, DeclaredType.metadataName, ← arity, Resolvable, ← noCommas]
  constructor
  · intro same
    obtain ⟨trimmed, counted⟩ := Snapshot.withArity_inj (by omega) positive same
    exact ⟨trimmed, by omega⟩
  · rintro ⟨trimmed, none⟩
    rw [trimmed, none, Nat.add_zero]

/-- **Where references to generic bases lead.**  Let a generic type be declared, and let a base be
written as its name with as many type arguments as it has type parameters.  The reference finds the
first type that is declared under the metadata name exactly if it can be resolved, and then the
chain goes on into that type, or ends there if the type came before.  A reference that cannot be
resolved finds no type of that metadata name: it is looked up under the name without blanks at its
ends, with the commas of array ranks counted as arguments. -/
theorem generic_base_resolves_iff (snapshot : Snapshot) {generic : DeclaredType}
    (declared : generic ∈ snapshot.types) (free : '<' ∉ generic.qualifiedName.toList)
    {arguments : List TypeDisplay} (some : arguments ≠ [])
    (arity : arguments.length = generic.typeParameters.length) :
    let compilation := Compilation.ofSnapshot snapshot
    let name := generic.qualifiedName
    let reference := instantiation name arguments
    baseKey reference =
        withArity (Text.trim name) (arguments.length + (arguments.map rankCommas).sum) ∧
    ∃ first, snapshot.types.find? (·.metadataName = generic.metadataName) = .some first ∧
      (compilation.type? (baseKey reference) = .some first ↔ Resolvable name arguments) ∧
      (Resolvable name arguments → ∀ (type : DeclaredType) (seen : List String),
        type.base? = .some reference →
        Hierarchy.climb compilation seen type =
          if seen.contains generic.metadataName then ⟨[], .some first⟩
          else
            let above := Hierarchy.climb compilation (generic.metadataName :: seen) first
            ⟨first :: above.bases, above.repeated⟩) ∧
      (¬ Resolvable name arguments → ∀ other,
        compilation.type? (baseKey reference) = .some other →
        other.metadataName ≠ generic.metadataName) := by
  intro compilation name reference
  have keyed := baseKey_instantiation_eq_iff free some arity
  obtain ⟨first, found⟩ : ∃ first,
      snapshot.types.find? (·.metadataName = generic.metadataName) = .some first :=
    Option.isSome_iff_exists.mp (List.find?_isSome.mpr ⟨generic, declared, by simp⟩)
  have meant : compilation.type? generic.metadataName = .some first :=
    (Compilation.type?_ofSnapshot snapshot _).trans found
  refine ⟨baseKey_instantiation free some, first, found, ?resolves, ?climbs, ?lost⟩
  case resolves =>
    rw [← keyed]
    constructor
    · intro resolved
      rw [← Snapshot.metadataName_of_type? resolved, Snapshot.metadataName_of_type? meant]
    · intro same
      rw [same, meant]
  case climbs =>
    intro resolvable type seen written
    have given : reference ≠ "" := by
      intro empty
      have := congrArg String.toList empty
      simp [reference, instantiation] at this
    have names : type.baseKey? = .some generic.metadataName := by
      rw [DeclaredType.baseKey?, written, given?, Option.filter_some, if_pos (by simpa using given),
        Option.map_some, keyed.mpr resolvable]
    exact Hierarchy.climb_of_declared names meant
  case lost =>
    intro unresolvable other found same
    exact unresolvable (keyed.mp ((Snapshot.metadataName_of_type? found).symm.trans same))

namespace Hierarchy.Example

/-- A type of the name with type parameters and a base. -/
def declare (name : String) (typeParameters : List String) (base? : Option String) :
    DeclaredType where
  name := name
  enclosing := "Ui"
  typeParameters := typeParameters
  base? := base?

def int : TypeDisplay := .name (.ofText "int" (by decide))

def string : TypeDisplay := .name (.ofText "string" (by decide))

/-- A dictionary of arrays with two dimensions, and an array that may be absent. -/
def nested : List TypeDisplay :=
  [.generic (.ofText "Dictionary" (by decide)) [string, .spaced 1 (.array int 1) 0],
    .spaced 1 (.nullable (.array int 0)) 0]

def pair : DeclaredType := declare "Pair" ["K", "V"] none

def rows : DeclaredType :=
  declare "Rows" [] (some "Ui.Pair<Dictionary<string, int[,]>, int[]?>")

/-- A class over a generic one, which has a namesake with fewer type parameters. -/
def overPair : Snapshot where
  types := [rows, declare "Pair" ["K"] none, pair]

/-- An array with two dimensions. -/
def matrix : List TypeDisplay := [.array int 1]

def grid : DeclaredType := declare "Grid" ["T"] none

def board : DeclaredType := declare "Board" [] (some "Ui.Grid<int[,]>")

/-- A class over a generic one of arrays with two dimensions. -/
def overGrid : Snapshot where
  types := [board, grid]

end Hierarchy.Example

open Hierarchy.Example in
/-- Commas inside an argument's own angle brackets do no harm. -/
theorem generic_base_resolves_nested :
    pair ∈ overPair.types ∧ nested ≠ [] ∧ '<' ∉ pair.qualifiedName.toList ∧
      nested.length = pair.typeParameters.length ∧
      instantiation "Ui.Pair" nested = "Ui.Pair<Dictionary<string, int[,]>, int[]?>" ∧
      (Compilation.ofSnapshot overPair).type? (baseKey (instantiation "Ui.Pair" nested)) =
        some pair ∧
      Hierarchy.climb (.ofSnapshot overPair) ["Ui.Rows"] rows = ⟨[pair], none⟩ := by
  have declared : pair ∈ overPair.types := by decide
  have free : '<' ∉ pair.qualifiedName.toList := by decide
  have some : nested ≠ [] := List.cons_ne_nil _ _
  have arity : nested.length = pair.typeParameters.length := rfl
  have resolvable : Resolvable pair.qualifiedName nested := ⟨by decide, by decide⟩
  obtain ⟨-, first, found, resolves, climbs, -⟩ :=
    generic_base_resolves_iff overPair declared free some arity
  obtain rfl : pair = first := Option.some.inj found
  refine ⟨declared, some, free, arity, by decide, resolves.mpr resolvable, ?_⟩
  have noBase : pair.baseKey? = none := rfl
  rw [climbs resolvable rows ["Ui.Rows"] (by decide), if_neg (by decide),
    Hierarchy.climb_of_no_base noBase]

open Hierarchy.Example in
/-- A generic type is declared and instantiated with as many arguments as it has parameters, and the
reference finds no type: the comma in the rank of the array is counted as one between arguments. -/
theorem generic_base_lost_at_rank :
    grid ∈ overGrid.types ∧ '<' ∉ grid.qualifiedName.toList ∧
      matrix.length = grid.typeParameters.length ∧
      board.base? = some (instantiation grid.qualifiedName matrix) ∧
      overGrid.types.find? (·.metadataName = grid.metadataName) = some grid ∧
      (Compilation.ofSnapshot overGrid).type?
        (baseKey (instantiation grid.qualifiedName matrix)) = none ∧
      (Hierarchy.ofType (.ofSnapshot overGrid) board).chain = [board] := by
  have undeclared : (Compilation.ofSnapshot overGrid).type?
      (baseKey (instantiation grid.qualifiedName matrix)) = none := by
    decide +kernel
  refine ⟨by decide, by decide, rfl, by decide, by decide, undeclared, ?_⟩
  have names : board.baseKey? = some (baseKey (instantiation grid.qualifiedName matrix)) := by
    decide +kernel
  rw [Hierarchy.chain, Hierarchy.ofType, Hierarchy.climb_of_undeclared names undeclared]

end ComponentPasses

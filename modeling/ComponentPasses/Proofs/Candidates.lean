import ComponentPasses.Candidates
import ComponentPasses.Proofs.FirstOccurrences
import ComponentPasses.Proofs.Snapshot.Lookup

/-!
# What is collected

No two candidate classes share a metadata name (`nodup_metadataName_collect`).

A class declaration counts by nothing but its symbol, and only if an attribute is written on it.
The candidate classes are therefore fixed by the symbols of such declarations in the order in which
they first occur: each candidate is the type of its symbol (`classes_collect`).
-/

namespace ComponentPasses

open Snapshot (Compilation DeclaredType Node given?)

/-! ## 1. No class comes twice -/

theorem metadataName_of_mem_distinctTypes {seen : List String} {types : List DeclaredType}
    {type : DeclaredType} (h : type ∈ distinctTypes seen types) : type.metadataName ∉ seen := by
  induction types generalizing seen with
  | nil => exact absurd h List.not_mem_nil
  | cons first rest ih =>
    unfold distinctTypes at h
    split at h
    · exact ih h
    · rename_i fresh
      rcases List.mem_cons.mp h with rfl | later
      · simpa using fresh
      · exact fun known => ih later (List.mem_cons_of_mem _ known)

theorem nodup_metadataName_distinctTypes (seen : List String) (types : List DeclaredType) :
    ((distinctTypes seen types).map (·.metadataName)).Nodup := by
  induction types generalizing seen with
  | nil => exact List.nodup_nil
  | cons first rest ih =>
    unfold distinctTypes
    split
    · exact ih seen
    · refine List.nodup_cons.mpr ⟨?_, ih _⟩
      intro again
      obtain ⟨type, later, same⟩ := List.mem_map.mp again
      exact metadataName_of_mem_distinctTypes later (same ▸ List.mem_cons_self)

/-- The candidate classes have metadata names of their own. -/
theorem nodup_metadataName_collect (settings : Settings) (compilation : Compilation) :
    ((Candidates.collect settings compilation).classes.map (·.metadataName)).Nodup :=
  nodup_metadataName_distinctTypes _ _

/-! ## 2. Classes by symbol -/

/-- The symbol of a class declaration with a written attribute. -/
def attributedSymbol? : Node → Option String
  | .member (.classDeclaration _ symbol (_ :: _) _ _) => given? symbol
  | _ => none

/-- The symbols of the class declarations with a written attribute, in order. -/
def attributedSymbols (snapshot : Snapshot) : List String :=
  snapshot.nodes.filterMap attributedSymbol?

/-- The type of a symbol if it is a candidate class. -/
def candidateOfSymbol? (settings : Settings) (compilation : Compilation) (symbol : String) :
    Option DeclaredType :=
  (compilation.type? symbol).filter (isCandidateClass settings)

theorem candidateOf?_eq (settings : Settings) (compilation : Compilation) (node : Node) :
    candidateOf? settings compilation node =
      (attributedSymbol? node).bind (candidateOfSymbol? settings compilation) := by
  match node with
  | .member (.classDeclaration _ symbol (_ :: _) _ _) =>
    simp only [candidateOf?, attributedSymbol?, Compilation.declaredType?]
    cases given? symbol <;> rfl
  | .member (.classDeclaration _ _ [] _ _) => rfl
  | .member (.methodDeclaration ..) => rfl
  | .statement _ => rfl
  | .expression _ => rfl

/-- Where types are found under their metadata names, keeping the first type of each name comes to
keeping the first occurrence of each symbol. -/
theorem distinctTypes_filterMap {typeOf : String → Option DeclaredType}
    (named : ∀ symbol type, typeOf symbol = some type → type.metadataName = symbol)
    (seen symbols : List String) :
    distinctTypes seen (symbols.filterMap typeOf) =
      symbols.eraseDups.filterMap fun symbol =>
        if seen.contains symbol then none else typeOf symbol := by
  induction symbols generalizing seen with
  | nil => rfl
  | cons symbol rest ih =>
    rw [List.eraseDups_cons, eraseDups_filter, List.filterMap_cons, List.filterMap_cons,
      List.filterMap_filter]
    cases found : typeOf symbol with
    | none =>
      rw [ite_self, ih]
      refine List.filterMap_congr fun other _ => ?_
      by_cases same : other = symbol
      · simp [same, found]
      · simp [same]
    | some type =>
      have name := named symbol type found
      by_cases known : seen.contains symbol = true
      · simp only [distinctTypes, name, known, if_true, ih]
        refine List.filterMap_congr fun other _ => ?_
        by_cases same : other = symbol
        · simp [same, List.contains_iff_mem.mp known]
        · simp [same]
      · simp only [distinctTypes, name, known, if_false, ih, Bool.false_eq_true]
        congr 1
        refine List.filterMap_congr fun other _ => ?_
        by_cases same : other = symbol
        · simp [same]
        · simp [same]

/-- The candidate classes are those of the symbols of class declarations with a written attribute,
each symbol at its first occurrence. -/
theorem classes_collect (settings : Settings) (snapshot : Snapshot) :
    (Candidates.collect settings (.ofSnapshot snapshot)).classes =
      (attributedSymbols snapshot).eraseDups.filterMap
        (candidateOfSymbol? settings (.ofSnapshot snapshot)) := by
  have named : ∀ symbol type,
      candidateOfSymbol? settings (.ofSnapshot snapshot) symbol = some type →
        type.metadataName = symbol := by
    intro symbol type found
    exact Snapshot.metadataName_of_type? (Option.filter_eq_some_iff.mp found).1
  have each : snapshot.nodes.filterMap (candidateOf? settings (.ofSnapshot snapshot)) =
      (attributedSymbols snapshot).filterMap
        (candidateOfSymbol? settings (.ofSnapshot snapshot)) := by
    rw [attributedSymbols, List.filterMap_filterMap]
    exact List.filterMap_congr fun node _ => candidateOf?_eq _ _ node
  exact (congrArg (distinctTypes []) each).trans (distinctTypes_filterMap named [] _)

end ComponentPasses

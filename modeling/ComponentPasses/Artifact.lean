/-!
# Generated artifacts

An artifact is one generated source text under a name.  An artifact store collects the artifacts of
a run in order and holds no name twice: adding a name that is there is refused and changes nothing.
-/

namespace ComponentPasses

/-- One generated source text. -/
structure Artifact where
  name : String
  content : String
deriving DecidableEq, Repr, Inhabited

/-- The name of the file that the artifact is written to. -/
def Artifact.filename (artifact : Artifact) : String :=
  artifact.name ++ ".cs"

/-- The artifacts of a run, in the order they were added. -/
structure ArtifactStore where
  artifacts : List Artifact := []
deriving DecidableEq, Repr, Inhabited

/-- A name is in the store already. -/
structure DuplicateArtifact where
  name : String
deriving DecidableEq, Repr

/-- How a duplicate is refused. -/
def DuplicateArtifact.message (duplicate : DuplicateArtifact) : String :=
  "Duplicate generated artifact name: " ++ duplicate.name

namespace ArtifactStore

/-- The names in order. -/
def names (store : ArtifactStore) : List String :=
  store.artifacts.map (·.name)

/-- The artifact of a name. -/
def get? (store : ArtifactStore) (name : String) : Option Artifact :=
  store.artifacts.find? (·.name = name)

/-- Adds an artifact at the end unless its name is there already. -/
def add (store : ArtifactStore) (artifact : Artifact) :
    Except DuplicateArtifact ArtifactStore :=
  if store.names.contains artifact.name then .error ⟨artifact.name⟩
  else .ok ⟨store.artifacts ++ [artifact]⟩

end ArtifactStore

end ComponentPasses

import ComponentPasses.Snapshot.DeclaredType
import ComponentPasses.Snapshot.Traversal

/-!
# Snapshots

A snapshot is what the host compiler hands over about one compilation: the types it declares and
the trees of its source files.
-/

namespace ComponentPasses

/-- A compilation as the host compiler sees it. -/
structure Snapshot where
  assemblyName : String := ""
  types : List Snapshot.DeclaredType := []
  files : List Snapshot.SourceFile := []
deriving Inhabited

/-- The nodes of every file, file by file, as the traversal meets them. -/
def Snapshot.nodes (snapshot : Snapshot) : List Snapshot.Node :=
  snapshot.files.flatMap (·.traversal)

end ComponentPasses

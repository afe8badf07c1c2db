import ComponentPasses.Text.Cut

/-!
# Paths

A path is an optional root and the names of its parts.  Reading a path from text drops empty parts
and parts that are a single point, so there is one way to write each path; two points stay, since
they mean the parent of whatever comes before.
-/

namespace ComponentPasses.Disk

/-- A path; the root is empty for a relative one. -/
structure Path where
  root : String := ""
  parts : List String := []
deriving DecidableEq, Repr, Inhabited

namespace Path

/-- The root a text begins with: one slash, or exactly two. -/
def rootOf (s : String) : String :=
  match s.toList with
  | '/' :: '/' :: '/' :: _ => "/"
  | '/' :: '/' :: _ => "//"
  | '/' :: _ => "/"
  | _ => ""

/-- Reads a path from text. -/
def ofText (s : String) : Path :=
  ⟨rootOf s, (Text.split '/' s).filter fun part => part ≠ "" ∧ part ≠ "."⟩

/-- The path as text; the empty path is a single point. -/
def text (path : Path) : String :=
  if path.root = "" ∧ path.parts = [] then "." else path.root ++ "/".intercalate path.parts

/-- The last part. -/
def name (path : Path) : String :=
  path.parts.getLast?.getD ""

/-- A path inside this one; an absolute path stays what it is. -/
def join (base path : Path) : Path :=
  if path.root = "" then ⟨base.root, base.parts ++ path.parts⟩ else path

/-- The path without its last part. -/
def parent (path : Path) : Path :=
  { path with parts := path.parts.dropLast }

/-- Follows parts from a place given by its names from the root down; two points go up. -/
def follow (place : List String) : List String → List String
  | [] => place
  | part :: rest =>
    if part = ".." then follow place.dropLast rest else follow (place ++ [part]) rest

/-- The place a path leads to from a directory, by its names from the root down. -/
def resolve (directory : List String) (path : Path) : List String :=
  follow (if path.root = "" then directory else []) path.parts

/-- The places that a path leads through from a directory, the directory itself first. -/
def way (directory : List String) (path : Path) : List (List String) :=
  (List.range (path.parts.length + 1)).map fun count =>
    resolve directory { path with parts := path.parts.take count }

end Path

end ComponentPasses.Disk

import ComponentPasses.Text.CellWidth

/-!
# Clusters of characters, and how many cells a text takes

A **cluster** is a character that takes cells together with what a terminal draws onto it: the
characters after it that take none.  Two of those do more.  U+200D joins, so that the character
after it belongs to the cluster as well.  U+FE0F widens: once for each character that can be
widened, it gives the cluster one cell more.

`cells` measures a text; `clusters` takes it apart, so that it can be cut without tearing anything
that is drawn as one.  They differ on a text that begins with a joiner: the measure skips what comes
after it, as it does everywhere, and the clusters do not, since there is nothing to join it to.
-/

namespace ComponentPasses.Text

/-- The character that joins the next one to the one before. -/
def joiner : Char := '\u200d'

/-- The character that turns the symbol before it into a wide picture. -/
def widener : Char := '\ufe0f'

/-- The number of cells of the rest of a text, where `base` is the last character that took any and
was not widened yet. -/
def cellsFrom (base : Option Char) : List Char → Nat
  | [] => 0
  | c :: rest =>
    if c = joiner then
      match rest with
      | [] => 0
      | _ :: others => cellsFrom base others
    else if c = widener then
      if base.any isWidened then 1 + cellsFrom none rest else cellsFrom base rest
    else if charCells c = 0 then cellsFrom base rest
    else charCells c + cellsFrom (some c) rest

/-- The number of cells a text takes. -/
def cells (s : List Char) : Nat :=
  cellsFrom none s

/-- Characters that are drawn as one, and the number of cells they take. -/
structure Cluster where
  text : List Char
  cells : Nat
deriving DecidableEq, Repr

/-- Puts characters into the last cluster, the first of the list, with so many cells more; where
there is none they make a cluster of no cells. -/
def attach (extra : List Char) (more : Nat) : List Cluster → List Cluster
  | [] => [⟨extra, 0⟩]
  | last :: others => ⟨last.text ++ extra, last.cells + more⟩ :: others

/-- The clusters of a text, where those in `done`, last first, have been found already and `base` is
the last character that took cells and was not widened yet. -/
def clustersFrom (done : List Cluster) (base : Option Char) : List Char → List Cluster
  | [] => done.reverse
  | c :: rest =>
    if c = joiner then
      match rest with
      | [] => (attach [c] 0 done).reverse
      | next :: others =>
        if done.isEmpty then clustersFrom [⟨[c], 0⟩] base (next :: others)
        else clustersFrom (attach [c, next] 0 done) base others
    else if c = widener then
      if base.any isWidened then clustersFrom (attach [c] 1 done) none rest
      else clustersFrom (attach [c] 0 done) base rest
    else if charCells c = 0 then clustersFrom (attach [c] 0 done) base rest
    else clustersFrom (⟨[c], charCells c⟩ :: done) (some c) rest

/-- The clusters of a text. -/
def clusters (s : List Char) : List Cluster :=
  clustersFrom [] none s

end ComponentPasses.Text

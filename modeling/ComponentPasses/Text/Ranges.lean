/-!
# Ascending ranges of code points

A character property is stored as the inclusive ranges of the code points that have it, in
ascending order.  `covers` looks a code point up and stops at the first range above it.
-/

namespace ComponentPasses.Text

/-- Whether one of the ascending inclusive ranges holds the number. -/
def covers : List (Nat × Nat) → Nat → Bool
  | [], _ => false
  | (low, high) :: rest, n => if n < low then false else n ≤ high || covers rest n

end ComponentPasses.Text

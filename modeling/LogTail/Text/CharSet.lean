/-!
Sets of characters, kept as ascending ranges of code points.
-/
namespace LogTail.Text

/-- A set of characters: ascending, disjoint ranges of code points, both ends included. -/
structure CharSet where
  ranges : List (Nat × Nat)

namespace CharSet

def covers : List (Nat × Nat) → Nat → Bool
  | [], _ => false
  | (first, last) :: rest, n =>
    if n < first then false else if n ≤ last then true else covers rest n

def contains (s : CharSet) (c : Char) : Bool :=
  covers s.ranges c.toNat

end CharSet

end LogTail.Text

import LogTail.Screen.Buffer

/-!
The scrollbar at the right edge of an area.
-/
namespace LogTail.Screen

def roundHalfUp (n d : Nat) : Nat :=
  (2 * n + d) / (2 * d)

structure Scrollbar where
  length : Nat
  position : Nat

namespace Scrollbar

/-- The parts of the track before, under and behind the thumb. The thumb is as long as the
viewport is in proportion, but at least one cell. -/
def parts (s : Scrollbar) (viewport track : Nat) : Nat × Nat × Nat :=
  let last := s.length - 1
  let position := min s.position last
  let whole := last + viewport
  let first := min (roundHalfUp (position * track) whole) (track - 1)
  let stop := min (roundHalfUp ((position + viewport) * track) whole) track
  let thumb := max (stop - first) 1
  (first, thumb, track - (first + thumb))

def signs (s : Scrollbar) (height : Nat) : List Char :=
  let (before, thumb, behind) := s.parts height (height - 2)
  '▲' :: List.replicate before '║' ++ List.replicate thumb '█' ++
    List.replicate behind '║' ++ ['▼']

def draw (s : Scrollbar) (b : Buffer) (a : Area) : Buffer :=
  if s.length = 0 ∨ a.height ≤ 2 ∨ a.width = 0 then b
  else
    (((s.signs a.height).take a.height).zipIdx).foldl
      (fun b (c, j) => (b.writeText (a.right - 1) (a.y + j) 1 .plain [c]).1) b

end Scrollbar

end LogTail.Screen

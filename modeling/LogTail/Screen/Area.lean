/-!
Rectangles on the screen. Coordinates fit in 16 bits.
-/
namespace LogTail.Screen

def greatestCoordinate : Nat := 65535

structure Area where
  x : Nat
  y : Nat
  width : Nat
  height : Nat
  deriving DecidableEq, Repr

namespace Area

def clipped (x y width height : Nat) : Area :=
  ⟨x, y, min width (greatestCoordinate - x), min height (greatestCoordinate - y)⟩

def right (a : Area) : Nat :=
  a.x + a.width

def bottom (a : Area) : Nat :=
  a.y + a.height

def isEmpty (a : Area) : Bool :=
  a.width == 0 || a.height == 0

def contains (a : Area) (x y : Nat) : Bool :=
  a.x ≤ x && x < a.right && a.y ≤ y && y < a.bottom

def inside (a : Area) : Area where
  x := min (a.x + 1) a.right
  y := min (a.y + 1) a.bottom
  width := a.width - 2
  height := a.height - 2

def withoutEnds (a : Area) : Area :=
  if a.height < 2 then ⟨0, 0, 0, 0⟩ else ⟨a.x, a.y + 1, a.width, a.height - 2⟩

/-- A rectangle of at most the given size in the middle, with some room around it. -/
def centered (a : Area) (width height : Nat) : Area :=
  let width := min width (a.width - 4)
  let height := min height (a.height - 2)
  clipped (a.x + (a.width - width) / 2) (a.y + (a.height - height) / 2) width height

end Area

end LogTail.Screen

import LogTail.Screen.Area
import LogTail.Screen.Scrollbar

/-!
How the height of the screen is shared. The header, the filter bar and the status bar take three
rows, three rows and one row, and the list of records takes the rest, of which it always gets a
row; on a low screen the header and the filter bar share equally what is left.
-/
namespace LogTail.Display

open LogTail.Screen

structure Bands where
  header : Area
  filterBar : Option Area
  logs : Area
  statusBar : Area
  deriving DecidableEq, Repr

namespace Bands

/-- The rows of the status bar, with `upper` bands above the list. The list comes first, and
where one row is left besides it, a lone header comes before the status bar. -/
def statusRows (height upper : Nat) : Nat :=
  if height ≤ 1 ∨ (upper = 1 ∧ height = 2) then 0 else 1

/-- The rows of the bands above the list together: what the list and the status bar leave, but
not more than three each. -/
def upperRows (height upper : Nat) : Nat :=
  min (height - 1 - statusRows height upper) (3 * upper)

/-- Where the `i`-th of the bands above the list ends. Their shares are equal, and the end is
rounded to a row. -/
def upperEnd (height upper i : Nat) : Nat :=
  roundHalfUp (i * upperRows height upper) upper

def rows (a : Area) (first last : Nat) : Area :=
  ⟨a.x, a.y + first, a.width, last - first⟩

def ofArea (a : Area) (showFilterBar : Bool) : Bands :=
  let upper := if showFilterBar then 2 else 1
  let header := upperEnd a.height upper 1
  let above := upperEnd a.height upper upper
  let logs := a.height - statusRows a.height upper
  ⟨rows a 0 header, if showFilterBar then some (rows a header above) else none,
    rows a above logs, rows a logs a.height⟩

end Bands

end LogTail.Display

import LogTail.Screen.Buffer

/-!
Frames around an area, with a title in the upper edge.
-/
namespace LogTail.Screen

structure Border where
  style : Style
  title : Option Span := none

namespace Border

def drawEdges (b : Buffer) (a : Area) (s : Style) : Buffer :=
  let put (places : List (Nat × Nat)) (c : Char) (b : Buffer) :=
    b.updateAll places (·.write [c] s)
  let rows := (List.range a.height).map (a.y + ·)
  let columns := (List.range a.width).map (a.x + ·)
  let last := a.right - 1
  let bottom := a.bottom - 1
  b |> put (rows.map fun y => (a.x, y)) '│'
    |> put (columns.map fun x => (x, a.y)) '─'
    |> put (rows.map fun y => (last, y)) '│'
    |> put (columns.map fun x => (x, bottom)) '─'
    |> put [(last, bottom)] '┘'
    |> put [(last, a.y)] '┐'
    |> put [(a.x, bottom)] '└'
    |> put [(a.x, a.y)] '┌'

/-- Writes the glyphs of a title from column `x` on. A glyph without width joins the cell before
it, or the first cell as long as that is the only one. -/
def writeTitle (b : Buffer) (start stop y x : Nat) (isFirst : Bool) : List Glyph → Buffer
  | [] => b
  | g :: rest =>
    let after := x + g.width
    if stop < after then b
    else
      let join (c : Cell) := c.write (c.symbol ++ g.symbol) g.style
      let b :=
        if isFirst then b.update x y (·.write g.symbol g.style)
        else if x = start then b.update x y join
        else if g.width = 0 then b.update (x - 1) y join
        else b.update x y (·.write g.symbol g.style)
      writeTitle (b.clearRun (x + 1) y (g.width - 1)) start stop y after false rest

def draw (border : Border) (b : Buffer) (a : Area) : Buffer :=
  if a.isEmpty then b
  else
    let b := drawEdges b a border.style
    match border.title with
    | none => b
    | some title =>
      let room := a.width - 2
      let start := a.x + 1
      if title.width = 0 ∨ room = 0 then b
      else writeTitle b start (start + min title.width room) a.y start true title.glyphs

end Border

end LogTail.Screen

import LogTail.Screen.Area
import LogTail.Screen.Line

/-!
The cells of the screen. A cell that the screen does not have cannot be written; who tries leaves the
screen overrun, and the program cannot go on with it.
-/
namespace LogTail.Screen

structure Cell where
  symbol : List Char
  foreground : Color
  background : Color
  bold : Bool
  blink : Bool
  deriving DecidableEq, Repr

namespace Cell

def blank : Cell := ⟨[' '], .reset, .reset, false, false⟩

def restyle (c : Cell) (s : Style) : Cell where
  symbol := c.symbol
  foreground := s.foreground.getD c.foreground
  background := s.background.getD c.background
  bold := c.bold || s.bold
  blink := c.blink || s.blink

def write (c : Cell) (symbol : List Char) (s : Style) : Cell :=
  { c with symbol := symbol }.restyle s

end Cell

structure Buffer where
  area : Area
  cells : Array Cell
  /-- Whether a cell was to be written that is not there. -/
  overrun : Bool

namespace Buffer

def blank (area : Area) : Buffer :=
  ⟨area, Array.replicate (area.width * area.height) .blank, false⟩

def index (b : Buffer) (x y : Nat) : Nat :=
  (y - b.area.y) * b.area.width + (x - b.area.x)

/-- A cell; outside the buffer all are blank. -/
def cell (b : Buffer) (x y : Nat) : Cell :=
  if b.area.contains x y then b.cells.getD (b.index x y) .blank else .blank

def update (b : Buffer) (x y : Nat) (f : Cell → Cell) : Buffer :=
  if b.area.contains x y then { b with cells := b.cells.modify (b.index x y) f }
  else { b with overrun := true }

def updateAll (b : Buffer) (places : List (Nat × Nat)) (f : Cell → Cell) : Buffer :=
  places.foldl (fun b (x, y) => b.update x y f) b

def places (a : Area) : List (Nat × Nat) :=
  (List.range a.height).flatMap fun j => (List.range a.width).map fun i => (a.x + i, a.y + j)

/-- Changes the style of the cells of a rectangle, as far as they are there. -/
def setStyle (b : Buffer) (a : Area) (s : Style) : Buffer :=
  b.updateAll ((places a).filter fun (x, y) => b.area.contains x y) (·.restyle s)

def clear (b : Buffer) (a : Area) : Buffer :=
  b.updateAll (places a) fun _ => .blank

def clearRun (b : Buffer) (x y count : Nat) : Buffer :=
  b.updateAll ((List.range count).map fun i => (x + i, y)) fun _ => .blank

def printable (text : List Char) : List (List Char) :=
  (Text.clusters text).filter fun cluster => !cluster.any Text.isControl

/-- Writes clusters one after another as long as `room` columns suffice, and gives the column
after the last one. Clusters without width are left out; a wide one takes its further cells
too. -/
def writeClusters (b : Buffer) (x y room : Nat) (s : Style) : List (List Char) → Buffer × Nat
  | [] => (b, x)
  | c :: rest =>
    let w := Text.width c
    if w = 0 then b.writeClusters x y room s rest
    else if room < w then (b, x)
    else
      ((b.update x y (·.write c s)).clearRun (x + 1) y (w - 1)).writeClusters (x + w) y
        (room - w) s rest

/-- Writes a text in at most `room` columns and not beyond the buffer, and gives the column after
it. -/
def writeText (b : Buffer) (x y room : Nat) (s : Style) (text : List Char) : Buffer × Nat :=
  b.writeClusters x y (min room (b.area.right - x)) s (printable text)

def writeLine (b : Buffer) (x y room : Nat) : Line → Buffer
  | [] => b
  | span :: rest =>
    if room = 0 then b
    else
      let (b, after) := b.writeText x y room span.style span.text
      b.writeLine after y (room - (after - x)) rest

def row (b : Buffer) (j : Nat) : List Cell :=
  (List.range b.area.width).map fun i => b.cell (b.area.x + i) (b.area.y + j)

def rowText (b : Buffer) (j : Nat) : String :=
  String.ofList ((b.row j).flatMap (·.symbol))

end Buffer

end LogTail.Screen

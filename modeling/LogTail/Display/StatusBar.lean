import LogTail.Display.Theme
import LogTail.Screen.Buffer

/-!
The bar at the bottom: keys on the left, and on the right what goes on. The keys give way where
there is not room for both. Positions are computed in words of 16 bits.
-/
namespace LogTail.Display

open LogTail.Screen

structure StatusBar where
  hints : List (String × String)
  right : List Span

namespace StatusBar

def word (n : Nat) : Nat :=
  n % 65536

def logViewerHints : List (String × String) :=
  [("/", "Filter"), ("l", "Level"), ("G", "Latest"), ("r", "Reload"), ("?", "Help"), ("q", "Quit")]

def hintSpans (hint : String × String) : Line :=
  [styled Theme.barKey ("[" ++ hint.1 ++ "]"), styled Theme.bar (" " ++ hint.2)]

def hintLine (bar : StatusBar) : Line :=
  [styled Theme.bar "  "].intercalate (bar.hints.map hintSpans)

def rightLine (bar : StatusBar) : Line :=
  [styled Theme.bar " │ "].intercalate (bar.right.map fun s => [s])

/-- The columns of the line on the right, as far as they are counted. -/
def rightWidth (bar : StatusBar) : Nat :=
  word bar.rightLine.width

def rightColumn (bar : StatusBar) (a : Area) : Nat :=
  a.x + (a.width - word (bar.rightWidth + 1))

def draw (bar : StatusBar) (b : Buffer) (a : Area) : Buffer :=
  let b := b.setStyle a Theme.bar
  let column := bar.rightColumn a
  let b := b.writeLine (a.x + 1) a.y (column - (a.x + 2)) bar.hintLine
  if 0 < bar.rightWidth ∧ a.x < column then b.writeLine column a.y bar.rightWidth bar.rightLine
  else b

end StatusBar

end LogTail.Display

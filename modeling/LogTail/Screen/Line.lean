import LogTail.Text.Blank
import LogTail.Text.Cluster
import LogTail.Text.Width
import LogTail.Screen.Style

/-!
Styled text in lines.
-/
namespace LogTail.Screen

structure Span where
  text : List Char
  style : Style
  deriving DecidableEq, Repr

abbrev Line := List Span

def styled (style : Style) (text : String) : Span :=
  ⟨text.toList, style⟩

def Span.width (s : Span) : Nat :=
  Text.width s.text

def Line.width : Line → Nat
  | [] => 0
  | s :: rest => s.width + Line.width rest

structure Glyph where
  symbol : List Char
  style : Style
  deriving DecidableEq, Repr

namespace Glyph

def width (g : Glyph) : Nat :=
  Text.width g.symbol

/-- Whether a line may be broken at the glyph: a blank that is not meant to hold words together,
or a break without width. -/
def isBreak (g : Glyph) : Bool :=
  g.symbol == ['\u200b'] || (g.symbol.all Text.isBlank && g.symbol != ['\u00a0'])

end Glyph

/-- The glyphs of a span; line feeds are left out. -/
def Span.glyphs (s : Span) : List Glyph :=
  ((Text.clusters s.text).filter (· != ['\n'])).map (⟨·, s.style⟩)

def Line.glyphs (l : Line) : List Glyph :=
  l.flatMap Span.glyphs

end LogTail.Screen

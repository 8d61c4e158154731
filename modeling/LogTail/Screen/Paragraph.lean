import LogTail.Screen.Border

/-!
Paragraphs: lines in a frame, cut at its edge or broken between words.
-/
namespace LogTail.Screen

def glyphsWidth : List Glyph → Nat
  | [] => 0
  | g :: rest => g.width + glyphsWidth rest

/-- The glyphs of a line that fit, up to the first that does not; one that would never fit is
left out. -/
def cutGlyphs (limit used : Nat) : List Glyph → List Glyph
  | [] => []
  | g :: rest =>
    if limit < g.width then cutGlyphs limit used rest
    else if limit < used + g.width then []
    else g :: cutGlyphs limit (used + g.width) rest

/-- A line being broken: finished lines backwards, the line begun, and the blanks and the word
that may follow on it. -/
structure Breaker where
  finished : List (List Glyph)
  line : List Glyph
  blanks : List Glyph
  word : List Glyph
  inWord : Bool

namespace Breaker

def start : Breaker := ⟨[], [], [], [], false⟩

/-- Puts the word on the line, with the blanks before it unless they would begin the line. -/
def commit (b : Breaker) : Breaker :=
  { b with
    line := (if b.line.isEmpty then b.word else b.line ++ b.blanks ++ b.word)
    blanks := []
    word := [] }

def dropBlanks (room : Nat) : List Glyph → List Glyph
  | [] => []
  | g :: rest => if room < g.width then g :: rest else dropBlanks (room - g.width) rest

def step (limit : Nat) (b : Breaker) (g : Glyph) : Breaker :=
  let w := g.width
  if limit < w then b
  else
    let isBlank := g.isBreak
    let full := b.line.isEmpty &&
      (limit < glyphsWidth b.word + w || limit < glyphsWidth b.blanks + w)
    let b := if (b.inWord && isBlank) || full then b.commit else b
    let used := glyphsWidth b.line
    let ends := limit ≤ used ||
      (0 < w && limit ≤ used + glyphsWidth b.blanks + glyphsWidth b.word)
    let b :=
      if ends then
        { b with
          finished := b.line :: b.finished
          line := []
          blanks := dropBlanks (limit - used) b.blanks }
      else b
    if ends && isBlank && b.blanks.isEmpty then b
    else if isBlank then { b with blanks := b.blanks ++ [g], inWord := false }
    else { b with word := b.word ++ [g], inWord := true }

def finish (b : Breaker) : List (List Glyph) :=
  let finished :=
    if b.line.isEmpty && b.word.isEmpty && !b.blanks.isEmpty then [] :: b.finished
    else b.finished
  let last := b.commit.line
  let finished := if last.isEmpty then finished else last :: finished
  if finished.isEmpty then [[]] else finished.reverse

end Breaker

def breakGlyphs (limit : Nat) (gs : List Glyph) : List (List Glyph) :=
  (gs.foldl (Breaker.step limit) .start).finish

structure Paragraph where
  lines : List Line
  border : Border
  style : Style := .plain
  isCentered : Bool := false
  breaks : Bool := false

namespace Paragraph

def writeGlyphs (b : Buffer) (x y : Nat) : List Glyph → Buffer
  | [] => b
  | g :: rest =>
    if g.width = 0 then writeGlyphs b x y rest
    else writeGlyphs (b.update x y (·.write g.symbol g.style)) (x + g.width) y rest

def rows (p : Paragraph) (limit : Nat) : List (List Glyph) :=
  p.lines.flatMap fun l =>
    if p.breaks then breakGlyphs limit (Line.glyphs l) else [cutGlyphs limit 0 (Line.glyphs l)]

def indent (p : Paragraph) (limit : Nat) (row : List Glyph) : Nat :=
  if p.isCentered then limit / 2 - glyphsWidth row / 2 else 0

def draw (p : Paragraph) (b : Buffer) (a : Area) : Buffer :=
  let b := p.border.draw (b.setStyle a p.style) a
  let inner := a.inside
  if inner.isEmpty then b
  else
    (((p.rows inner.width).take inner.height).zipIdx).foldl
      (fun b (row, j) =>
        writeGlyphs b (inner.x + p.indent inner.width row) (inner.y + j) row) b

end Paragraph

end LogTail.Screen

/-!
Colours and styles of text on the screen.
-/
namespace LogTail.Screen

inductive Color
  | reset
  | black
  | red
  | green
  | yellow
  | blue
  | magenta
  | cyan
  | white
  | darkGray
  deriving DecidableEq, Repr

def Color.name : Color → String
  | reset => "Reset"
  | black => "Black"
  | red => "Red"
  | green => "Green"
  | yellow => "Yellow"
  | blue => "Blue"
  | magenta => "Magenta"
  | cyan => "Cyan"
  | white => "White"
  | darkGray => "DarkGray"

/-- A change of how text looks. What is not set stays as it is. -/
structure Style where
  foreground : Option Color := none
  background : Option Color := none
  bold : Bool := false
  blink : Bool := false
  deriving DecidableEq, Repr

namespace Style

def plain : Style := ⟨none, none, false, false⟩

def ofColor (c : Color) : Style := ⟨some c, none, false, false⟩

def patch (a b : Style) : Style where
  foreground := b.foreground <|> a.foreground
  background := b.background <|> a.background
  bold := a.bold || b.bold
  blink := a.blink || b.blink

end Style

end LogTail.Screen

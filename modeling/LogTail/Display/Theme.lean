import LogTail.Level
import LogTail.Screen.Style

/-!
The look of the log viewer.
-/
namespace LogTail.Display.Theme

open LogTail.Screen

def levelColor : Level → Color
  | .debug => .cyan
  | .info => .green
  | .warn => .yellow
  | .error => .red
  | .fatal => .magenta

def bold (c : Color) : Style := ⟨some c, none, true, false⟩

def onBar (c : Color) : Style := ⟨some c, some .darkGray, true, false⟩

def border : Style := .ofColor .darkGray

def borderFocused : Style := .ofColor .yellow

def borderAccent : Style := .ofColor .cyan

def title : Style := bold .cyan

def text : Style := .ofColor .white

def dim : Style := .ofColor .darkGray

def highlight : Style := bold .yellow

def caret : Style := ⟨some .yellow, none, false, true⟩

def error : Style := bold .red

def searchMatch : Style := ⟨some .black, some .yellow, true, false⟩

def badge (l : Level) : Style := bold (levelColor l)

def message : Level → Style
  | .error | .fatal => .ofColor .red
  | .warn => .ofColor .yellow
  | .debug | .info => text

def logger : Style := bold .blue

def attributes : Style := .ofColor .magenta

def success : Style := .ofColor .green

def bar : Style := ⟨some .darkGray, some .darkGray, false, false⟩

def barKey : Style := onBar .yellow

def following : Style := onBar .green

def paused : Style := onBar .yellow

end LogTail.Display.Theme

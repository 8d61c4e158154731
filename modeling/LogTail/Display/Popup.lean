import LogTail.Display.Theme
import LogTail.Screen.Paragraph

/-!
Windows over the log viewer: the list of keys, and the question before the log is cleared.
-/
namespace LogTail.Display

open LogTail.Screen

def drawPopup (p : Paragraph) (b : Buffer) (width height : Nat) : Buffer :=
  let a := b.area.centered width height
  p.draw (b.clear a) a

def keySections : List (String × List (String × String)) :=
  [("Navigation",
      [("j/↓", "Scroll down"), ("k/↑", "Scroll up"), ("Ctrl+d", "Page down"),
        ("Ctrl+u", "Page up"), ("g/Home", "Go to oldest"), ("G/End", "Jump to latest (follow)")]),
    ("Filtering",
      [("l / L", "Next / previous level"), ("/", "Filter text"), ("n", "Clear text filter")]),
    ("Display", [("t", "Toggle timestamps"), ("a", "Toggle attributes")]),
    ("Service", [("r", "Reload from service"), ("C", "Clear all logs on service")]),
    ("General", [("?", "Toggle this help"), ("Esc", "Dismiss"), ("q", "Quit")])]

def keyLine (key : String × String) : Line :=
  [styled Theme.success (String.ofList (List.replicate (10 - key.1.length) ' ') ++ key.1),
    styled Theme.text ("  " ++ key.2)]

def sectionLines (keys : String × List (String × String)) : List Line :=
  [styled Theme.highlight keys.1] :: keys.2.map keyLine

def help : Paragraph where
  lines := [[]].intercalate (keySections.map sectionLines)
  border := ⟨Theme.borderAccent, some (styled Theme.title " Keybindings ")⟩

def drawHelp (b : Buffer) : Buffer :=
  drawPopup help b 50 28

def question (title text : String) : Paragraph where
  lines :=
    [[], [styled Theme.text text], [],
      [styled Theme.highlight "[y]", styled Theme.text " Yes   ",
        styled Theme.highlight "[n]", styled Theme.text " No"]]
  border := ⟨Theme.error, some (styled Theme.error (" " ++ title ++ " "))⟩
  isCentered := true
  breaks := true

def drawQuestion (title text : String) (b : Buffer) : Buffer :=
  drawPopup (question title text) b 52 7

end LogTail.Display

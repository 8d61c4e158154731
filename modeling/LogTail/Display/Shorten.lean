import LogTail.Text.Width

/-!
Texts that have to fit into a number of columns.
-/
namespace LogTail.Display

def fitting (room : Nat) : List Char → List Char
  | [] => []
  | c :: rest =>
    let w := (Text.charWidth c).getD 0
    if room < w then [] else c :: fitting (room - w) rest

/-- A text in at most `width` columns. Where something had to go, an ellipsis takes its place. -/
def shorten (text : List Char) (width : Nat) : List Char :=
  if Text.width text ≤ width then text
  else if width = 0 then []
  else fitting (width - 1) text ++ ['…']

end LogTail.Display

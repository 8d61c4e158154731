import LogTail.App.Input
import LogTail.Display.LogScreen
import LogTail.Simulation
import LogTail.Startup

/-!
The application at a terminal, under simulation: it draws itself whenever anything has changed,
and takes one key after another.
-/
namespace LogTail

def Simulation.fulfil (s : Simulation) : Option Request → Simulation
  | none => s
  | some (.setLevel level) => s.send (.setLevel level)
  | some .reload => s.send .reload
  | some .clear => s.requestClear.1

structure Console where
  sim : Simulation
  app : App
  seen : Nat
  width : Nat
  height : Nat

namespace Console

def area (c : Console) : Screen.Area :=
  ⟨0, 0, c.width, c.height⟩

def start (url : String) (threshold : PinThreshold) (sim : Simulation) (width height : Nat) :
    Console :=
  let view := (View.ofSnapshot sim.session.published).withThreshold threshold
  ⟨sim, .new url view, 0, width, height⟩

def failure : Except ClearError Unit → Option String
  | .ok () => none
  | .error e => some e.message

def settle (c : Console) : Console :=
  let sim := c.sim.settle
  let latest := sim.session.published
  let app := if sim.session.version = c.seen then c.app else c.app.refresh latest
  let app := sim.replies.foldl (fun a r => a.clearDone (failure r.2) latest) app
  let app := if sim.session.isOpen then app else { app with quit := true }
  { c with
    sim := { sim with replies := [] }
    app := { Display.fitted app c.area with dirty := false }
    seen := sim.session.version }

def press (c : Console) (k : Key) : Console :=
  if c.app.quit then c
  else
    let (app, request) := c.app.press k
    { c with app := app, sim := c.sim.fulfil request }.settle

def type (c : Console) (text : String) : Console :=
  (Input.keys text).foldl press c.settle

def wait (c : Console) (ms : Nat) : Console :=
  { c with sim := c.sim.wait ms }.settle

def resize (c : Console) (width height : Nat) : Console :=
  { c with width := width, height := height }.settle

/-- The cells of a row that are seen: a wide sign covers the cells after it. -/
def seenCells (covered : Nat) : List Screen.Cell → List Screen.Cell
  | [] => []
  | cell :: rest =>
    match covered with
    | n + 1 => seenCells n rest
    | 0 => cell :: seenCells (Text.width cell.symbol - 1) rest

/-- What the rows of the terminal show, without blanks at their ends. -/
def rows (c : Console) : List String :=
  let b := Display.draw c.app c.area
  (List.range c.height).map fun j =>
    let text := (seenCells 0 (b.row j)).flatMap (·.symbol)
    String.ofList ((text.reverse.dropWhile (· == ' ')).reverse)

end Console

end LogTail

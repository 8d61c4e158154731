import LogTail.App
import LogTail.Display.Bands
import LogTail.Display.Popup
import LogTail.Display.Shorten
import LogTail.Display.StatusBar
import LogTail.Screen.Scrollbar
import LogTail.Time.Stamp

/-!
The log viewer on the screen.
-/
namespace LogTail.Display

open LogTail.Screen

def levelTitle : LevelFilter → String
  | none => "ALL"
  | some .debug => "DEBUG"
  | some .info => "INFO"
  | some .warn => "WARN"
  | some .error => "ERROR"
  | some .fatal => "FATAL"

def separator : Span := styled Theme.dim " │ "

def phaseStyle : Phase → Style
  | .streaming => Theme.success
  | .error => Theme.error
  | _ => Theme.dim

def header (app : App) : Paragraph :=
  let snapshot := app.view.snapshot
  let phase := if snapshot.loading then "loading…" else snapshot.phase.name
  { lines :=
      [[styled Theme.title "botmon", separator, styled Theme.text app.url, separator,
        styled Theme.dim "level: ", styled Theme.highlight (levelTitle app.view.level), separator,
        styled (phaseStyle snapshot.phase) phase]]
    border := ⟨Theme.border, none⟩ }

def filterBar (app : App) : Paragraph :=
  let text := styled Theme.highlight app.view.filter.text
  { lines :=
      [if app.searchActive then
        [styled Theme.highlight " /", text, styled Theme.caret "█",
          styled Theme.dim "  [Enter] Keep  [Esc] Cancel"]
      else
        [styled Theme.dim " Filter: ", text, styled Theme.dim "  [n] Clear  [/] Edit"]]
    border :=
      ⟨if app.searchActive then Theme.borderFocused else Theme.border,
        some (styled Theme.title " Filter ")⟩ }

def slice (offset first last : Nat) : List Char → List Char
  | [] => []
  | c :: rest =>
    let tail := slice (offset + c.utf8Size) first last rest
    if first ≤ offset ∧ offset < last then c :: tail else tail

/-- The spans of a text of `size` bytes from `offset` on, with the given ranges marked. -/
def markFrom (base : Style) (text : List Char) (size offset : Nat) :
    List TextFilter.Range → List Span
  | [] => if offset < size then [⟨slice 0 offset size text, base⟩] else []
  | r :: rest =>
    (if offset < r.first then [⟨slice 0 offset r.first text, base⟩] else []) ++
      ⟨slice 0 r.first r.last text, Theme.searchMatch⟩ :: markFrom base text size r.last rest

def highlighted (filter : TextFilter) (text : List Char) (base : Style) : List Span :=
  match filter.ranges (String.ofList text) with
  | [] => [⟨text, base⟩]
  | ranges => markFrom base text (String.ofList text).utf8ByteSize 0 ranges

def recordHead (app : App) (r : Record) : Line :=
  (if app.showTimestamps then [styled Theme.dim (Time.displayStamp r.timestamp ++ " ")] else []) ++
  [styled (Theme.badge r.level) (r.level.symbol ++ " " ++ r.level.short ++ " ")] ++
  (r.logger.map fun s => styled Theme.logger ("[" ++ s ++ "] ")).toList

/-- The line of a record. Its message is cut where the room left by what stands before it ends. -/
def recordLine (app : App) (width : Nat) (r : Record) : Line :=
  let head := recordHead app r
  let message := shorten r.message.toList (width - head.width)
  head ++ highlighted app.view.filter message (Theme.message r.level) ++
    (if app.showAttributes && !r.attributes.isEmpty then
      [styled Theme.attributes (" " ++ r.attributesInline)] else []) ++
    (r.caller.map fun s => styled Theme.dim (" (" ++ s ++ ")")).toList

def emptyHint (v : View) : String :=
  if v.snapshot.loading then "Loading logs…"
  else if v.snapshot.records.isEmpty then "Waiting for logs…"
  else "No logs match the current filter"

def drawLogs (app : App) (b : Buffer) (a : Area) : Buffer :=
  let view := app.view
  let total := view.visible.length
  let height := a.height - 2
  let count := if view.filter.text = "" then toString total else toString total ++ " matching"
  let border : Border := ⟨Theme.border, some (styled Theme.title (" Logs (" ++ count ++ ") "))⟩
  if total = 0 then
    { lines := [[], [styled .plain (emptyHint view)]]
      border := border
      style := Theme.dim
      isCentered := true : Paragraph }.draw b a
  else
    let p : Paragraph :=
      { lines := view.window.map fun s => recordLine app (a.width - 3) s.record
        border := border }
    let b := p.draw b a
    let last := total - height
    if last = 0 then b
    else (⟨last, min view.scroll.offset last⟩ : Scrollbar).draw b a.withoutEnds

def statusSegments (app : App) : List Span :=
  let snapshot := app.view.snapshot
  let counts := snapshot.counts
  let problem :=
    match app.errorMessage with
    | some message => some message
    | none => snapshot.lastError.map FaultReport.display
  (problem.map fun text => styled Theme.error ("⚠ " ++ text)).toList ++
  [styled Theme.bar
      ("E:" ++ toString (counts.error + counts.fatal) ++ " W:" ++ toString counts.warn ++
        " I:" ++ toString counts.info),
    styled Theme.bar
      (toString app.view.visible.length ++ " / " ++ toString snapshot.records.length ++ " logs"),
    if app.view.scroll.pinned then styled Theme.following "▼ FOLLOW"
    else styled Theme.paused "‖ PAUSED"]

def showsFilterBar (app : App) : Bool :=
  app.searchActive || app.view.filter.text != ""

/-- The application as it is drawn on a screen: the view is as high as the list of records. -/
def fitted (app : App) (screen : Area) : App :=
  let bands := Bands.ofArea screen (showsFilterBar app)
  { app with view := app.view.setHeight (bands.logs.height - 2) }

def draw (app : App) (screen : Area) : Buffer :=
  let bands := Bands.ofArea screen (showsFilterBar app)
  let b := (header app).draw (.blank screen) bands.header
  let b := match bands.filterBar with
    | some a => (filterBar app).draw b a
    | none => b
  let b := drawLogs app b bands.logs
  let b := (⟨StatusBar.logViewerHints, statusSegments app⟩ : StatusBar).draw b bands.statusBar
  let b :=
    if app.confirmClear then
      drawQuestion "Clear logs" "Delete all logs on the service? This cannot be undone." b
    else b
  if app.helpVisible then drawHelp b else b

end LogTail.Display

import LogTail.Main
import LogTail.Console
import LogTail.Proofs.Cursor
import LogTail.Proofs.Engine.Act
import LogTail.Proofs.Store
import LogTail.Proofs.Engine.Ledger
import LogTail.Proofs.Engine.Outstanding
import LogTail.Proofs.Engine.Staleness
import LogTail.Proofs.Engine.Merges
import LogTail.Proofs.Engine.Tailing
import LogTail.Proofs.Service.Reply
import LogTail.Proofs.Engine.Fate
import LogTail.Proofs.Session.Traffic
import LogTail.Proofs.Session.Reload
import LogTail.Proofs.View.Reader
import LogTail.Proofs.Engine.History
import LogTail.Proofs.Engine.Failures
import LogTail.Proofs.Service.Clearing
import LogTail.Proofs.View.Place
import LogTail.Proofs.Session.Clear
import LogTail.Proofs.View.Printer
import LogTail.Proofs.View.Tail
import LogTail.Proofs.Service.Request
import LogTail.Proofs.Service.NextPosition
import LogTail.Proofs.Engine.Positions
import LogTail.Proofs.Store.Numbers
import LogTail.Proofs.Session.Level
import LogTail.Proofs.View.Level
import LogTail.Proofs.App.Keys
import LogTail.Proofs.App.Run
import LogTail.Proofs.App.Confirmation
import LogTail.Proofs.App.FilterInput
import LogTail.Proofs.App.Terminal
import LogTail.Proofs.App.Redraw
import LogTail.Proofs.Text.Lower
import LogTail.Proofs.Filter.Ranges
import LogTail.Proofs.Filter.Found
import LogTail.Proofs.Display.Highlight
import LogTail.Proofs.Text.Width
import LogTail.Proofs.Display.Shorten
import LogTail.Proofs.Scroll.Bottom
import LogTail.Proofs.Screen.Buffer
import LogTail.Proofs.Screen.Placed
import LogTail.Proofs.Display.StatusBar
import LogTail.Proofs.Json.Lexing
import LogTail.Proofs.Json.Building
import LogTail.Proofs.Json.Value
import LogTail.Proofs.Json.Fields
import LogTail.Proofs.Record.Wire
import LogTail.Proofs.Service.Pages
import LogTail.Proofs.Scroll.Adjustment
import LogTail.Proofs.App.Search
import LogTail.Proofs.View.Lines
import LogTail.Proofs.Text.Words
import LogTail.Proofs.Level
import LogTail.Proofs.Scroll.Paging
import LogTail.Proofs.View.Paging
import LogTail.Proofs.Number.Digits
import LogTail.Proofs.Time.Notation
import LogTail.Proofs.Time.Clock
import LogTail.Proofs.Display.StatusBarArea
import LogTail.Proofs.Settings
import LogTail.Proofs.Store.Batches
import LogTail.Proofs.Screen.Centered
import LogTail.Proofs.Url.Percent
import LogTail.Proofs.Url.Steps
import LogTail.Proofs.Url.Path
import LogTail.Proofs.Service.Endpoint

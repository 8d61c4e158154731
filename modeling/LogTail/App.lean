import LogTail.App.Action
import LogTail.View

/-!
The application around a view: what has the keyboard, what is shown beside the log, and what each
action does.
-/
namespace LogTail

inductive Request
  | setLevel (level : LevelFilter)
  | reload
  | clear
  deriving DecidableEq, Repr

structure App where
  view : View
  url : String
  searchActive : Bool
  searchInput : String
  /-- The text filter before the input was opened. -/
  searchPrevious : String
  helpVisible : Bool
  confirmClear : Bool
  showTimestamps : Bool
  showAttributes : Bool
  errorMessage : Option String
  quit : Bool
  dirty : Bool

namespace App

def new (url : String) (view : View) : App where
  view := view
  url := url
  searchActive := false
  searchInput := ""
  searchPrevious := ""
  helpVisible := false
  confirmClear := false
  showTimestamps := true
  showAttributes := true
  errorMessage := none
  quit := false
  dirty := true

def context (a : App) : KeyContext :=
  if a.confirmClear then .confirmClear
  else if a.searchActive then .filterInput
  else .logViewer

def editSearch (a : App) (text : String) : App :=
  { a with searchInput := text, view := a.view.setText text }

def setLevel (a : App) (level : LevelFilter) : App × Option Request :=
  let (view, wanted) := a.view.setLevel level
  ({ a with view := view }, wanted.map .setLevel)

def perform (a : App) : Action → App × Option Request
  | .quit => ({ a with quit := true }, none)
  | .toggleHelp => ({ a with helpVisible := !a.helpVisible }, none)
  | .toggleTimestamps => ({ a with showTimestamps := !a.showTimestamps }, none)
  | .toggleAttributes => ({ a with showAttributes := !a.showAttributes }, none)
  | .scrollUp n => ({ a with view := a.view.scrollBy (·.up n) }, none)
  | .scrollDown n => ({ a with view := a.view.scrollBy (·.down n) }, none)
  | .pageUp => ({ a with view := a.view.scrollBy .pageUp }, none)
  | .pageDown => ({ a with view := a.view.scrollBy .pageDown }, none)
  | .scrollToTop => ({ a with view := a.view.scrollBy .toTop }, none)
  | .jumpToLatest => ({ a with view := a.view.scrollBy .toLatest }, none)
  | .cycleLevel => a.setLevel a.view.level.next
  | .cycleLevelBack => a.setLevel a.view.level.previous
  | .openSearch =>
    ({ a with
        searchActive := true
        searchPrevious := a.view.filter.text
        searchInput := a.view.filter.text }, none)
  | .closeSearch =>
    ({ a with searchActive := false, searchPrevious := "" }.editSearch a.searchPrevious, none)
  | .searchInput c => (a.editSearch (a.searchInput.push c), none)
  | .searchBackspace => (a.editSearch (String.ofList a.searchInput.toList.dropLast), none)
  | .searchClear => (a.editSearch "", none)
  | .applyFilter => ({ a with searchActive := false, searchPrevious := "" }, none)
  | .clearFilter => ({ a with searchPrevious := "" }.editSearch "", none)
  | .reload => ({ a with errorMessage := none }, some .reload)
  | .requestClear => ({ a with confirmClear := true }, none)
  | .confirmClear => ({ a with confirmClear := false }, some .clear)
  | .cancelClear => ({ a with confirmClear := false }, none)
  | .showError message => ({ a with errorMessage := some message }, none)
  | .dismissError =>
    if a.helpVisible then ({ a with helpVisible := false }, none)
    else ({ a with errorMessage := none }, none)

def act (a : App) (action : Action) : App × Option Request :=
  { a with dirty := true }.perform action

def press (a : App) (k : Key) : App × Option Request :=
  match a.context.action? k with
  | none => (a, none)
  | some action => a.act action

def refresh (a : App) (latest : Snapshot) : App :=
  let (view, changed) := a.view.refresh latest
  { a with view := view, dirty := a.dirty || changed }

def clearDone (a : App) (failure : Option String) (latest : Snapshot) : App :=
  let a := match failure with
    | none => a
    | some message => { a with errorMessage := some ("Clear failed: " ++ message) }
  { a with view := (a.view.refresh latest).1, dirty := true }

end App

end LogTail

import LogTail.App.Key

/-!
What the reader can do, and the keys for it. Which keys there are depends on what has the
keyboard.
-/
namespace LogTail

inductive Action
  | quit
  | toggleHelp
  | toggleTimestamps
  | toggleAttributes
  | scrollUp (n : Nat)
  | scrollDown (n : Nat)
  | pageUp
  | pageDown
  | scrollToTop
  | jumpToLatest
  | cycleLevel
  | cycleLevelBack
  | openSearch
  | closeSearch
  | searchInput (c : Char)
  | searchBackspace
  | searchClear
  | applyFilter
  | clearFilter
  | reload
  | requestClear
  | confirmClear
  | cancelClear
  | showError (message : String)
  | dismissError
  deriving DecidableEq, Repr

inductive KeyContext
  | global
  | logViewer
  | filterInput
  | confirmClear
  deriving DecidableEq, Repr

namespace KeyContext

def plain (c : Char) : Key := ⟨.char c, false, false, false⟩

def control (c : Char) : Key := ⟨.char c, false, true, false⟩

def named (k : KeyCode) : Key := ⟨k, false, false, false⟩

def bindings : KeyContext → List (Key × Action)
  | global =>
    [(plain '?', .toggleHelp), (named .escape, .dismissError), (plain 'q', .quit),
      (control 'c', .quit)]
  | logViewer =>
    [(plain 'j', .scrollDown 1), (named .down, .scrollDown 1), (plain 'k', .scrollUp 1),
      (named .up, .scrollUp 1), (control 'd', .pageDown), (named .pageDown, .pageDown),
      (control 'u', .pageUp), (named .pageUp, .pageUp), (plain 'g', .scrollToTop),
      (named .home, .scrollToTop), (plain 'G', .jumpToLatest), (named .endKey, .jumpToLatest),
      (plain 'l', .cycleLevel), (plain 'L', .cycleLevelBack), (plain '/', .openSearch),
      (plain 'n', .clearFilter), (plain 'r', .reload), (plain 'C', .requestClear),
      (plain 't', .toggleTimestamps), (plain 'a', .toggleAttributes)]
  | filterInput =>
    [(named .enter, .applyFilter), (named .escape, .closeSearch), (control 'c', .closeSearch),
      (named .backspace, .searchBackspace), (control 'u', .searchClear)]
  | confirmClear =>
    [(plain 'y', .confirmClear), (plain 'Y', .confirmClear), (plain 'n', .cancelClear),
      (named .escape, .cancelClear)]

def bound? (context : KeyContext) (k : Key) : Option Action :=
  context.bindings.lookup k.binding

/-- What a key does in a context. In the log viewer the keys of all contexts work too, and in the
filter input a key that types a character does that; an open question takes no other key than its
own. -/
def action? (context : KeyContext) (k : Key) : Option Action :=
  match context with
  | .confirmClear => bound? .confirmClear k
  | .filterInput =>
    match bound? .filterInput k with
    | some a => some a
    | none => k.typed?.map .searchInput
  | context =>
    match bound? context k with
    | some a => some a
    | none => bound? .global k

end KeyContext

end LogTail

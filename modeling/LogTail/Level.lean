import LogTail.Text.Blank
import LogTail.Text.Lower

/-!
Severity levels: their names, the spellings they are read from, and the filter that shows either
one level or all of them.
-/
namespace LogTail

inductive Level
  | debug
  | info
  | warn
  | error
  | fatal
  deriving DecidableEq, Repr

namespace Level

def all : List Level := [debug, info, warn, error, fatal]

def unstated : Level := info

def name : Level → String
  | debug => "debug"
  | info => "info"
  | warn => "warn"
  | error => "error"
  | fatal => "fatal"

def short : Level → String
  | debug => "DBG"
  | info => "INF"
  | warn => "WRN"
  | error => "ERR"
  | fatal => "FTL"

def symbol : Level → String
  | debug => "○"
  | info => "●"
  | warn => "⚠"
  | error => "✗"
  | fatal => "☠"

def rank : Level → Nat
  | debug => 0
  | info => 1
  | warn => 2
  | error => 3
  | fatal => 4

def spellings : Level → List String
  | debug => ["debug", "dbg", "debg", "trace"]
  | info => ["info", "inf", "information"]
  | warn => ["warn", "warning", "wrn"]
  | error => ["error", "err", "erro"]
  | fatal => ["fatal", "panic", "dpanic", "critical", "crit", "ftl"]

/-- Reads a level from one of its spellings, in any case and with blanks around it. -/
def parse? (text : String) : Option Level :=
  let word := String.ofList (Text.lower (Text.trim text.toList))
  all.find? fun l => l.spellings.contains word

/-- Reads the level of a record; a text that is no spelling counts as unstated. -/
def ofText (text : String) : Level :=
  (parse? text).getD unstated

end Level

structure UnknownLevel where
  text : String
  deriving DecidableEq, Repr

def UnknownLevel.message (e : UnknownLevel) : String :=
  "unknown log level '" ++ e.text ++ "' (expected debug, info, warn, error or fatal)"

def Level.read (text : String) : Except UnknownLevel Level :=
  match parse? text with
  | some l => .ok l
  | none => .error ⟨text⟩

abbrev LevelFilter := Option Level

namespace LevelFilter

def passes (f : LevelFilter) (l : Level) : Bool :=
  match f with
  | none => true
  | some wanted => l == wanted

def next : LevelFilter → LevelFilter
  | none => some .debug
  | some .debug => some .info
  | some .info => some .warn
  | some .warn => some .error
  | some .error => some .fatal
  | some .fatal => none

def previous : LevelFilter → LevelFilter
  | none => some .fatal
  | some .debug => none
  | some .info => some .debug
  | some .warn => some .info
  | some .error => some .warn
  | some .fatal => some .error

/-- Whether two texts agree but for the case of the letters a to z. -/
def sameWord (a b : String) : Bool :=
  a.toList.map Char.toLower == b.toList.map Char.toLower

/-- Reads a filter. Nothing, and the word that says so, stand for all levels. -/
def read (text : String) : Except UnknownLevel LevelFilter :=
  let word := String.ofList (Text.trim text.toList)
  if word == "" || sameWord word "all" then .ok none else (Level.read word).map some

end LevelFilter

end LogTail

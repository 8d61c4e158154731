import LogTail.Level
import LogTail.Session.Config

/-!
The settings of the program. Each may be given in a file and on the command line, where the
latter has precedence, and has a default.
-/
namespace LogTail

structure FileSettings where
  baseUrl : Option String := none
  pollMs : Option Nat := none
  timeoutMs : Option Nat := none
  capacity : Option Nat := none
  limit : Option Nat := none
  level : Option String := none
  pinRows : Option Nat := none
  deriving DecidableEq, Repr

structure Overrides where
  baseUrl : Option String := none
  pollMs : Option Nat := none
  timeoutMs : Option Nat := none
  capacity : Option Nat := none
  limit : Option Nat := none
  level : Option String := none
  deriving DecidableEq, Repr

structure Settings where
  baseUrl : String
  session : SessionConfig
  level : LevelFilter
  /-- How many rows from the bottom count as following the log. -/
  pinRows : Nat
  deriving DecidableEq, Repr

inductive SettingsError
  | unreadable
  | malformed
  | level (e : UnknownLevel)
  | zero (key : String)
  deriving DecidableEq, Repr

def SettingsError.message : SettingsError → String
  | unreadable => "failed to read the config file"
  | malformed => "invalid config file"
  | level e => e.message
  | zero key => key ++ " must be greater than zero"

namespace Settings

def usualUrl : String := "http://localhost:1314"

def usualPinRows : Nat := 1

def positive (key : String) (n : Option Nat) : Except SettingsError Unit :=
  if n = some 0 then .error (.zero key) else .ok ()

def readLevel : Option String → Except SettingsError LevelFilter
  | none => .ok none
  | some text => (LevelFilter.read text).mapError .level

/-- The settings in effect. Of several faults the first in the order of the checks is told. -/
def resolve (file : FileSettings) (given : Overrides) : Except SettingsError Settings := do
  let pollMs := given.pollMs <|> file.pollMs
  let timeoutMs := given.timeoutMs <|> file.timeoutMs
  let capacity := given.capacity <|> file.capacity
  positive "poll_interval_ms" pollMs
  positive "request_timeout_ms" timeoutMs
  positive "capacity" capacity
  let level ← readLevel (given.level <|> file.level)
  let usual : SessionConfig := {}
  let session : SessionConfig :=
    { capacity := capacity.getD usual.capacity
      pollMs := pollMs.getD usual.pollMs
      timeoutMs := timeoutMs.getD usual.timeoutMs
      limit := given.limit <|> file.limit }
  return ⟨(given.baseUrl <|> file.baseUrl).getD usualUrl, session, level,
    file.pinRows.getD usualPinRows⟩

end Settings

end LogTail

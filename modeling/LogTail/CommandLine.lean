import LogTail.Number.Digits
import LogTail.Settings

/-!
The command line: options with values, the flag for plain output, and one argument without an
option, which is the service.
-/
namespace LogTail

inductive ValueOption
  | url
  | level
  | capacity
  | pollInterval
  | timeout
  | limit
  | config
  | logFile
  deriving DecidableEq, Repr

namespace ValueOption

def all : List ValueOption :=
  [url, level, capacity, pollInterval, timeout, limit, config, logFile]

def name : ValueOption → String
  | url => "url"
  | level => "level"
  | capacity => "capacity"
  | pollInterval => "poll-interval-ms"
  | timeout => "timeout-ms"
  | limit => "limit"
  | config => "config"
  | logFile => "log-file"

end ValueOption

inductive UsageError
  /-- A value is missing. -/
  | invalidValue
  /-- A value is no number. -/
  | valueValidation
  | unknownArgument
  /-- A flag was given a value. -/
  | tooManyValues
  /-- Something was given twice. -/
  | argumentConflict
  | displayHelp
  | displayVersion
  deriving DecidableEq, Repr

structure Arguments where
  url : Option String := none
  urlOption : Option String := none
  level : Option String := none
  capacity : Option Nat := none
  pollMs : Option Nat := none
  timeoutMs : Option Nat := none
  limit : Option Nat := none
  config : Option String := none
  logFile : Option String := none
  plain : Bool := false
  deriving DecidableEq, Repr

namespace Arguments

def overrides (a : Arguments) : Overrides where
  baseUrl := a.url <|> a.urlOption
  pollMs := a.pollMs
  timeoutMs := a.timeoutMs
  capacity := a.capacity
  limit := a.limit
  level := a.level

/-- The first natural number that does not fit 64 bits. -/
def wordBound : Nat := 18446744073709551616

def word? (text : String) : Option Nat :=
  let digits := match text.toList with
    | '+' :: rest => rest
    | cs => cs
  if digits.isEmpty then none
  else (Number.natural? 10 digits).filter (· < wordBound)

def once {α : Type} (old : Option α) (new : Except UsageError α) :
    Except UsageError (Option α) :=
  if old.isSome then .error .argumentConflict else new.map some

def number (text : String) : Except UsageError Nat :=
  match word? text with
  | some n => .ok n
  | none => .error .valueValidation

/-- Reads the value of an option that takes a path, which may not be empty. -/
def path (text : String) : Except UsageError String :=
  if text = "" then .error .invalidValue else .ok text

def set (a : Arguments) (o : ValueOption) (value : String) : Except UsageError Arguments :=
  match o with
  | .url => (once a.urlOption (.ok value)).map fun v => { a with urlOption := v }
  | .level => (once a.level (.ok value)).map fun v => { a with level := v }
  | .capacity => (once a.capacity (number value)).map fun v => { a with capacity := v }
  | .pollInterval => (once a.pollMs (number value)).map fun v => { a with pollMs := v }
  | .timeout => (once a.timeoutMs (number value)).map fun v => { a with timeoutMs := v }
  | .limit => (once a.limit (number value)).map fun v => { a with limit := v }
  | .config => (once a.config (path value)).map fun v => { a with config := v }
  | .logFile => (once a.logFile (path value)).map fun v => { a with logFile := v }

structure Progress where
  arguments : Arguments
  /-- The option read last and its value, if that was read. It counts once what follows is known
  to belong to the command line. -/
  pending : Option (ValueOption × Option String)
  optionsEnded : Bool

namespace Progress

def start : Progress := ⟨{}, none, false⟩

def resolved (p : Progress) : Except UsageError Arguments :=
  match p.pending with
  | none => .ok p.arguments
  | some (_, none) => .error .invalidValue
  | some (o, some value) => p.arguments.set o value

def settle (p : Progress) (a : Arguments) : Progress :=
  { p with arguments := a, pending := none }

def takeUrl (p : Progress) (text : String) : Except UsageError Progress :=
  if p.arguments.url.isSome then .error .unknownArgument
  else p.resolved.map fun a => p.settle { a with url := some text }

/-- Takes an option by its name, with the value that follows an equals sign, if there is one. -/
def takeLong (p : Progress) (name : String) (value : Option String) :
    Except UsageError Progress :=
  match ValueOption.all.find? (·.name == name) with
  | some o =>
    p.resolved.bind fun a =>
      match value with
      | some value => (a.set o value).map p.settle
      | none => .ok { p with arguments := a, pending := some (o, none) }
  | none =>
    if name ∉ ["plain", "help", "version"] then .error .unknownArgument
    else if value.isSome then .error .tooManyValues
    else
      p.resolved.bind fun a =>
        if name = "help" then .error .displayHelp
        else if name = "version" then .error .displayVersion
        else if a.plain then .error .argumentConflict
        else .ok (p.settle { a with plain := true })

/-- Takes options of one letter, of which the first ends the command line. -/
def takeShort (p : Progress) (letter : Char) : Except UsageError Progress :=
  if letter = 'h' then p.resolved.bind fun _ => .error .displayHelp
  else if letter = 'V' then p.resolved.bind fun _ => .error .displayVersion
  else .error .unknownArgument

def step (p : Progress) (text : String) : Except UsageError Progress :=
  if p.optionsEnded then p.takeUrl text
  else
    match text.toList with
    | ['-', '-'] => .ok { p with optionsEnded := true }
    | '-' :: '-' :: rest =>
      let value := rest.dropWhile (· ≠ '=')
      p.takeLong (String.ofList (rest.takeWhile (· ≠ '=')))
        (if value.isEmpty then none else some (String.ofList (value.drop 1)))
    | '-' :: letter :: _ => p.takeShort letter
    | _ =>
      match p.pending with
      | some (o, none) => .ok { p with pending := some (o, some text) }
      | _ => p.takeUrl text

end Progress

/-- Reads a command line. The service may be named in one way only. -/
def parse (line : List String) : Except UsageError Arguments := do
  let p ← line.foldlM Progress.step .start
  let a ← p.resolved
  if a.url.isSome && a.urlOption.isSome then .error .argumentConflict else .ok a

end Arguments

end LogTail

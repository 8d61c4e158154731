import LogTail.Tail

/-!
The program. It prints the log as plain lines; the responses of the service come from standard
input, one body on each line.
-/
namespace LogTail

def usage : String :=
  "Usage: botmon [OPTIONS] [URL]\n\n" ++
  "Options:\n" ++
  "  --url <URL>                Base URL of the service\n" ++
  "  --level <LEVEL>            all, debug, info, warn, error or fatal\n" ++
  "  --capacity <N>             Number of records kept\n" ++
  "  --poll-interval-ms <N>     Milliseconds between polls\n" ++
  "  --timeout-ms <N>           Milliseconds a request may take\n" ++
  "  --limit <N>                Records asked for by a full load\n" ++
  "  --config <PATH>            Config file\n" ++
  "  --log-file <PATH>          File for diagnostics\n" ++
  "  --plain                    Print records as lines\n"

def UsageError.message : UsageError → String
  | invalidValue => "error: a value is required"
  | valueValidation => "error: invalid value"
  | unknownArgument => "error: unexpected argument"
  | tooManyValues => "error: unexpected value"
  | argumentConflict => "error: an argument cannot be used with another"
  | displayHelp => usage
  | displayVersion => "botmon"

def readSettings (path : String) : IO FileContent := do
  try
    let bytes ← IO.FS.readBinFile path
    match String.fromUTF8? bytes with
    | some text => return .text text
    | none => return .unreadable
  catch e =>
    match e with
    | .noFileOrDirectory .. => return .missing
    | _ => return .unreadable

def settingsContent (a : Arguments) : IO FileContent := do
  match a.config with
  | some path => readSettings path
  | none =>
    match ← IO.getEnv "HOME" with
    | some home => readSettings (home ++ "/.config/botmon/config.toml")
    | none => return .missing

def createLogFile (path : String) : IO (Except StartError Unit) := do
  try
    IO.FS.writeFile path ""
    return .ok ()
  catch _ => return .error (.logFile path)

/-- The lines of standard input. -/
partial def inputLines (input : IO.FS.Stream) : IO (List String) := do
  let line ← input.getLine
  if line.isEmpty then return []
  return line :: (← inputLines input)

def printLog (a : Arguments) : IO (Except StartError Unit) := do
  if let some path := a.logFile then
    if let .error e ← createLogFile path then return .error e
  match a.startup (← settingsContent a) with
  | .error e => return .error e
  | .ok startup =>
    let bodies ← inputLines (← IO.getStdin)
    let responses := bodies.map fun body => (⟨200, body.toUTF8.toList, true⟩ : Response)
    for line in (tail startup responses).1 do
      IO.println line
    return .ok ()

end LogTail

def main (args : List String) : IO UInt32 := do
  match LogTail.Arguments.parse args with
  | .error e =>
    if e = .displayHelp ∨ e = .displayVersion then
      IO.println e.message
      return 0
    IO.eprintln e.message
    return 2
  | .ok a =>
    match ← LogTail.printLog a with
    | .ok () => return 0
    | .error e =>
      IO.eprintln ("Error: " ++ e.message ++ (e.cause?.map (": " ++ ·)).getD "")
      return 1

import LogTail.CommandLine
import LogTail.Service.Endpoint
import LogTail.Settings.File

/-!
From the command line and the settings file to the service whose log is shown.
-/
namespace LogTail

inductive FileContent
  | missing
  | unreadable
  | text (content : String)
  deriving DecidableEq, Repr

/-- What a settings file says. One that was asked for has to be there. -/
def FileSettings.load (asked : Bool) : FileContent → Except SettingsError FileSettings
  | .missing => if asked then .error .unreadable else .ok {}
  | .unreadable => .error .unreadable
  | .text content => Settings.File.read content

inductive StartError
  | file (e : SettingsError)
  | settings (e : SettingsError)
  | service (url : String) (fault : Fault)
  | logFile (path : String)
  deriving DecidableEq, Repr

namespace StartError

def message : StartError → String
  | file _ => "failed to load configuration"
  | settings _ => "invalid configuration"
  | service url _ => "cannot use service URL '" ++ url ++ "'"
  | logFile path => "failed to create log file " ++ path

def cause? : StartError → Option String
  | file e | settings e => some e.message
  | service _ f => some f.message
  | logFile _ => none

end StartError

structure Startup where
  settings : Settings
  endpoint : Url

def Arguments.settings (a : Arguments) (content : FileContent) : Except StartError Settings := do
  let file ← (FileSettings.load a.config.isSome content).mapError .file
  (Settings.resolve file a.overrides).mapError .settings

def Arguments.startup (a : Arguments) (content : FileContent) : Except StartError Startup := do
  let settings ← a.settings content
  let url ← (LogTail.endpoint settings.baseUrl).mapError (.service settings.baseUrl)
  return ⟨settings, url⟩

end LogTail

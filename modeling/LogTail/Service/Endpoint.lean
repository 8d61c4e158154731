import LogTail.Fault
import LogTail.Url
import LogTail.Url.Domain

/-!
Where the service is reached: a path below that of its base URL.
-/
namespace LogTail

def monitorPath : Url.RelativePath where
  text := "api/monitor".toList
  plain := by decide
  begins := by decide

def Url.asFolder (u : Url) : Url :=
  if u.pathText.toList.getLast? = some '/' then u else u.setPath (u.pathText ++ "/")

/-- The endpoint of the service at a base URL, by a rule for what a domain is in ASCII. -/
def endpointBy (ascii? : List Char → Option (List Char)) (base : String) : Except Fault Url :=
  let invalid (reason : String) : Fault := .invalidUrl base reason
  match Url.read ascii? base with
  | .error e => .error (invalid e.message)
  | .ok u =>
    if u.isRootless then .error (invalid "not a hierarchical url")
    else (u.asFolder.join monitorPath).mapError fun e => invalid e.message

def endpoint (base : String) : Except Fault Url :=
  endpointBy Url.domain? base

end LogTail

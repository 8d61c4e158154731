import LogTail.Time.Duration

/-!
What can go wrong between this program and the service, and the three kinds that a reader of the
log tells apart.
-/
namespace LogTail

inductive FaultKind
  | network
  | server
  | protocol
  deriving DecidableEq, Repr

def FaultKind.name : FaultKind → String
  | network => "network"
  | server => "server"
  | protocol => "protocol"

inductive Fault
  | network (detail : String)
  | timeout (limit : Duration)
  | server (status : Nat) (detail : String)
  | protocol (detail : String)
  /-- The answer is incomplete or not of the expected form. All such answers have one wording: what
  a decoder has to say of the body is left out. -/
  | unreadable
  | rejected (detail : String)
  | invalidUrl (url : String) (reason : String)
  deriving DecidableEq, Repr

namespace Fault

def kind : Fault → FaultKind
  | network _ | timeout _ | invalidUrl _ _ => .network
  | server _ _ | rejected _ => .server
  | protocol _ | unreadable => .protocol

def message : Fault → String
  | network detail => "request failed: " ++ detail
  | timeout limit => "request timed out after " ++ limit.text
  | server status detail => "server returned " ++ toString status ++ ": " ++ detail
  | protocol detail => "malformed response: " ++ detail
  | unreadable => "malformed response: unreadable body"
  | rejected detail => "clear rejected: " ++ detail
  | invalidUrl url reason => "invalid base url '" ++ url ++ "': " ++ reason

end Fault

structure FaultReport where
  kind : FaultKind
  message : String
  deriving DecidableEq, Repr

def Fault.report (f : Fault) : FaultReport :=
  ⟨f.kind, f.message⟩

def FaultReport.display (r : FaultReport) : String :=
  r.kind.name ++ " error: " ++ r.message

end LogTail

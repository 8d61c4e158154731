import LogTail.Service.Query
import LogTail.Service.Reply
import LogTail.Text.Decoding
import LogTail.Url.Percent

/-!
The exchange with the service: what a call sends, and what the response to it means.
-/
namespace LogTail

inductive ServiceCall
  | query (query : Query)
  | clear
  deriving DecidableEq

def ServiceCall.requestLine (path : String) : ServiceCall → String
  | .query q =>
    "GET " ++ path ++ (if q.params.isEmpty then "" else "?" ++ Url.formText q.params)
  | .clear => "DELETE " ++ path

structure Response where
  status : Nat
  body : List UInt8
  /-- Whether the body has the length that was announced. -/
  complete : Bool := true
  deriving DecidableEq, Repr

namespace Response

def isSuccess (r : Response) : Bool :=
  200 ≤ r.status && r.status < 300

def hasBody (r : Response) : Bool :=
  r.status != 204 && r.status != 304 && 200 ≤ r.status

/-- Whether the response answers a call. One that only informs does not, and a status has three
digits. -/
def isFinal (r : Response) : Bool :=
  r.status == 101 || (200 ≤ r.status && r.status < 1000)

def text (r : Response) : List Char :=
  if r.hasBody then Text.decode r.body else []

def result {α : Type} (r : Response) (read : List Char → Except Fault α) : Except Fault α :=
  if !r.isFinal then .error (.network "no answer")
  else if r.hasBody && !r.complete then .error .unreadable
  else if r.isSuccess then read r.text
  else .error (.ofResponse r.status r.text)

def page (r : Response) (q : Query) : Except Fault Page :=
  r.result (Page.ofBody · q.isFull)

def cleared (r : Response) : Except Fault Unit :=
  r.result ClearReply.ofBody

end Response

end LogTail

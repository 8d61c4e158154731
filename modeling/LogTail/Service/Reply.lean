import LogTail.Record.Wire
import LogTail.Cursor
import LogTail.Fault

/-!
What the service answers. A page of records is brought into the order of arrival, with a cursor
at least as late as its last record.
-/
namespace LogTail

open LogTail.Json

structure Page where
  records : List Record
  next : Cursor

structure Reply where
  logs : List Record
  lastTimestamp : Option String
  count : Option Nat

namespace Reply

def partNames : List String :=
  ["logs", "lastTimestamp", "count"]

/-- Reads a reply. In an array the last timestamp may be null but not missing. -/
def ofTree? (t : Tree) : Option Reply := do
  let p ← t.parts? partNames
  let logs ← p.optional? "logs" none
    (Tree.nullable? (Tree.list? (Record.ofTree? (Record.nesting - 2))))
  let lastTimestamp ←
    if p.positional then p.required? "lastTimestamp" (Tree.nullable? Tree.text?)
    else p.optional? "lastTimestamp" none (Tree.nullable? Tree.text?)
  let count ← p.optional? "count" none (Tree.nullable? Tree.count?)
  return ⟨logs.getD [], lastTimestamp, count⟩

/-- The page that a reply makes up. A full load comes with the newest record first. -/
def page (r : Reply) (full : Bool) : Except Fault Page :=
  match r.lastTimestamp with
  | none => .error (.protocol "response is missing lastTimestamp")
  | some last =>
    let records := if full then r.logs.reverse else r.logs
    let cursor := match records.getLast? with
      | none => .ofToken last
      | some newest => (Cursor.ofToken last).advance (.ofToken newest.timestamp)
    if !records.isEmpty && cursor.isAbsent then
      .error (.protocol "non-empty page without a cursor")
    else .ok ⟨records, cursor⟩

end Reply

def Page.ofBody (body : List Char) (full : Bool) : Except Fault Page :=
  match (Tree.parse? body).bind Reply.ofTree? with
  | none => .error .unreadable
  | some r => r.page full

structure ClearReply where
  success : Bool
  message : Option String
  error : Option String
  deriving DecidableEq, Repr

namespace ClearReply

def ofTree? (t : Tree) : Option ClearReply := do
  let p ← t.parts? ["success", "message", "error"]
  let success ← p.optional? "success" false Tree.bool?
  let message ← p.optional? "message" none (Tree.nullable? Tree.text?)
  let error ← p.optional? "error" none (Tree.nullable? Tree.text?)
  return ⟨success, message, error⟩

def outcome (r : ClearReply) : Except Fault Unit :=
  if r.success then .ok () else .error (.rejected (r.error.getD "unknown error"))

def ofBody (body : List Char) : Except Fault Unit :=
  match (Tree.parse? body).bind ofTree? with
  | none => .error .unreadable
  | some r => r.outcome

end ClearReply

def excerptLength : Nat := 200

/-- The error that a body states, if it has the form of an error. -/
def statedError? (body : List Char) : Option String := do
  let t ← Tree.parse? body
  let p ← t.parts? ["error"]
  let stated ← p.optional? "error" none (Tree.nullable? Tree.text?)
  stated

def Fault.ofResponse (status : Nat) (body : List Char) : Fault :=
  .server status ((statedError? body).getD (String.ofList (body.take excerptLength)))

end LogTail

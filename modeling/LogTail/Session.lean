import LogTail.Session.Snapshot

/-!
A session: an engine that is driven by a timer, by commands and by the outcomes of calls. One
event is taken at a time; what has to be done about it is given back as effects, and after it the
session publishes a snapshot if that shows anything new.
-/
namespace LogTail

abbrev ClearId := Nat

inductive Command
  | setLevel (level : LevelFilter)
  | reload
  | clear (id : ClearId)
  deriving DecidableEq

inductive Outcome
  | fetched (ticket : Ticket) (result : Except Fault Page)
  | cleared (id : ClearId) (result : Except Fault Unit)

inductive ClearError
  | fault (fault : Fault)
  | closed
  deriving DecidableEq, Repr

def ClearError.message : ClearError → String
  | fault f => f.message
  | closed => "log session is closed"

inductive Effect
  | fetch (ticket : Ticket)
  | clear (id : ClearId)
  | reply (id : ClearId) (result : Except ClearError Unit)

inductive Event
  | tick
  | command
  | outcome (outcome : Outcome)
  | close

structure Session where
  engine : Engine
  inbox : List Command
  published : Snapshot
  version : Nat
  isOpen : Bool

namespace Session

def start (capacity : Nat) (limit : Option Nat) (level : LevelFilter) :
    Session × List Effect :=
  let (engine, ticket) := (Engine.new capacity limit).start level
  (⟨engine, [], .ofEngine engine, 0, true⟩, (ticket.map .fetch).toList)

def publish (s : Session) : Session :=
  let next := Snapshot.ofEngine s.engine
  if s.published.sameAs next then s
  else { s with published := next, version := s.version + 1 }

def send (s : Session) (c : Command) : Session :=
  { s with inbox := s.inbox ++ [c] }

def perform (s : Session) : Command → Session × List Effect
  | .setLevel level =>
    let (engine, ticket) := s.engine.setLevel level
    ({ s with engine := engine }, (ticket.map .fetch).toList)
  | .reload =>
    let (engine, ticket) := s.engine.reload
    ({ s with engine := engine }, (ticket.map .fetch).toList)
  | .clear id => (s, [.clear id])

def receive (s : Session) : Outcome → Session × List Effect
  | .fetched ticket result => ({ s with engine := (s.engine.complete ticket result).1 }, [])
  | .cleared id (.ok ()) => ({ s with engine := s.engine.clearSucceeded }, [.reply id (.ok ())])
  | .cleared id (.error fault) => (s, [.reply id (.error (.fault fault))])

/-- The answers to commands that will not be taken up any more. -/
def refusals : List Command → List Effect
  | [] => []
  | .clear id :: rest => .reply id (.error .closed) :: refusals rest
  | _ :: rest => refusals rest

def react (s : Session) : Event → Session × List Effect
  | .tick =>
    let (engine, ticket) := s.engine.tick
    ({ s with engine := engine }, (ticket.map .fetch).toList)
  | .command =>
    match s.inbox with
    | [] => (s, [])
    | c :: rest => { s with inbox := rest }.perform c
  | .outcome o => s.receive o
  | .close =>
    ({ s with engine := s.engine.close, inbox := [], isOpen := false }, refusals s.inbox)

/-- The answer to an outcome that no one waits for any more. -/
def disregard : Event → List Effect
  | .outcome (.cleared id _) => [.reply id (.error .closed)]
  | _ => []

/-- Takes an event. The effects come after the new snapshot was published, so whoever hears of a
clear finds it done. -/
def step (s : Session) (event : Event) : Session × List Effect :=
  if s.isOpen then
    let (s, effects) := s.react event
    (s.publish, effects)
  else (s, disregard event)

end Session

end LogTail

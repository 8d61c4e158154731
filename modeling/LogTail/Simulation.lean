import LogTail.Session
import LogTail.Session.Config
import LogTail.Simulation.Script
import LogTail.Plain

/-!
A session and a scripted service on a clock that moves only when it is told to. At every moment
all that is due is carried out: commands first, then the poll timer, then the answers to calls.
-/
namespace LogTail

namespace Simulation

structure Call where
  answered : Outcome
  overdue : Outcome
  readyAt : Option Nat
  gate : Option String
  deadline : Nat

end Simulation

/-- A session under simulation. Time is in milliseconds. -/
structure Simulation where
  session : Session
  script : Simulation.Script
  now : Nat
  period : Nat
  nextTick : Nat
  timeout : Nat
  initial : List Effect
  closing : Bool
  pending : List Simulation.Call
  openGates : List String
  lostGates : List String
  calls : List ServiceCall
  replies : List (ClearId × Except ClearError Unit)
  nextClear : ClearId

namespace Simulation

def start (config : SessionConfig) (level : LevelFilter) (script : Script) : Simulation :=
  let (session, effects) := Session.start config.capacity config.limit level
  let period := max config.pollMs 1
  ⟨session, script, 0, period, period, config.timeoutMs, effects, false, [], [], [], [], [], 0⟩

def hasAnswer (s : Simulation) (c : Call) : Bool :=
  c.readyAt.any (· ≤ s.now) && c.gate.all s.openGates.contains

def hasEnded (s : Simulation) (c : Call) : Bool :=
  s.hasAnswer c || c.deadline ≤ s.now

def overdueFault (s : Simulation) : Fault :=
  .timeout (.ofMilliseconds s.timeout)

def underWay {α : Type} (s : Simulation) (outcome : Except Fault α → Outcome)
    (answer : Option (Answer α)) : Call where
  answered := outcome ((answer.map (·.result)).getD (.error s.overdueFault))
  overdue := outcome (.error s.overdueFault)
  readyAt := answer.map (s.now + ·.delay)
  gate := answer.bind (·.gate)
  deadline := s.now + s.timeout

def carryOut (s : Simulation) : Effect → Simulation
  | .fetch ticket =>
    let (script, answer) := s.script.query ticket.query
    { s with
      script := script
      calls := s.calls ++ [.query ticket.query]
      pending := s.pending ++ [s.underWay (.fetched ticket) answer] }
  | .clear id =>
    let (script, answer) := s.script.clear
    { s with
      script := script
      calls := s.calls ++ [.clear]
      pending := s.pending ++ [s.underWay (.cleared id) answer] }
  | .reply id result => { s with replies := s.replies ++ [(id, result)] }

def happen (s : Simulation) (event : Event) : Simulation :=
  let (session, effects) := s.session.step event
  effects.foldl carryOut { s with session := session }

def begin (s : Simulation) : Simulation :=
  let s := s.initial.foldl carryOut { s with initial := [] }
  if s.closing && s.session.isOpen then s.happen .close else s

def takeCommands (s : Simulation) : Simulation :=
  s.session.inbox.foldl (fun s _ => s.happen .command) s

def fireTimer (s : Simulation) : Simulation :=
  if s.session.isOpen && s.nextTick ≤ s.now then
    { s with nextTick := s.nextTick + s.period }.happen .tick
  else s

def endCalls (s : Simulation) : Simulation :=
  let (ended, rest) := s.pending.partition s.hasEnded
  let lost := (ended.filter (!s.hasAnswer ·)).filterMap (·.gate)
  ended.foldl
    (fun t c => t.happen (.outcome (if s.hasAnswer c then c.answered else c.overdue)))
    { s with pending := rest, lostGates := s.lostGates ++ lost }

def settle (s : Simulation) : Simulation :=
  s.begin.takeCommands.fireTimer.endCalls

def moments (s : Simulation) : List Nat :=
  (if s.session.isOpen then [s.nextTick] else []) ++
    s.pending.flatMap fun c =>
      c.deadline :: (if c.gate.all s.openGates.contains then c.readyAt.toList else [])

def nextMoment? (s : Simulation) (last : Nat) : Option Nat :=
  (s.moments.filter fun t => s.now < t && t ≤ last).min?

/-- Moves on from moment to moment, `fuel` of them at most, until `stop` holds or nothing is due
until `last`. -/
def advanceBy (stop : Simulation → Bool) (last : Nat) : Nat → Simulation → Simulation
  | 0, s => s
  | fuel + 1, s =>
    if stop s then s
    else
      match s.nextMoment? last with
      | none => { s with now := max s.now last }
      | some t => advanceBy stop last fuel ({ s with now := t }.settle)

def advance (s : Simulation) (stop : Simulation → Bool) (last : Nat) : Simulation :=
  let s := s.settle
  s.advanceBy stop last (last - s.now + 1)

def wait (s : Simulation) (ms : Nat) : Simulation :=
  s.advance (fun _ => false) (s.now + ms)

/-- Waits until a snapshot after the one numbered `seen` is published, for `ms` at most; says
whether there is one, or nothing if the time passed without an answer. -/
def awaitChange (s : Simulation) (seen : Nat) (ms : Nat) : Simulation × Option Bool :=
  let s := s.advance (fun s => s.session.version != seen || !s.session.isOpen) (s.now + ms)
  (s, if s.session.version != seen then some true
    else if s.session.isOpen then none else some false)

def send (s : Simulation) (c : Command) : Simulation :=
  if s.session.isOpen then { s with session := s.session.send c } else s

def requestClear (s : Simulation) : Simulation × ClearId :=
  let id := s.nextClear
  let s := { s with nextClear := id + 1 }
  (if s.session.isOpen then s.send (.clear id)
    else { s with replies := s.replies ++ [(id, .error .closed)] }, id)

def awaitReply (s : Simulation) (id : ClearId) : Simulation × Option (Except ClearError Unit) :=
  let s := s.advance (fun s => (s.replies.lookup id).isSome) (s.now + s.timeout)
  ({ s with replies := s.replies.filter (·.1 != id) }, s.replies.lookup id)

def close (s : Simulation) : Simulation :=
  { s with closing := true }

/-- Opens a gate. Says whether an answer was or will be waiting behind it, or nothing where no
answer ever had it. -/
def release (s : Simulation) (gate : String) : Simulation × Option Bool :=
  if s.openGates.contains gate then (s, none)
  else
    let waiting := s.script.gates ++ s.pending.filterMap (·.gate)
    let opened := { s with openGates := gate :: s.openGates }
    if waiting.contains gate then (opened, some true)
    else if s.lostGates.contains gate then (opened, some false)
    else (s, none)

def push (s : Simulation) (a : Answer Page) : Simulation :=
  { s with script := s.script.push a }

def report (s : Simulation) :
    Simulation × List ServiceCall × List (Except ClearError Unit) :=
  ({ s with calls := [], replies := [] }, s.calls, s.replies.map (·.2))

end Simulation

structure Follower where
  view : View
  seen : Nat
  last : Option Nat
  lines : List String

namespace Follower

def new (view : View) (seen : Nat) : Follower :=
  ⟨view, seen, none, []⟩

def observe (f : Follower) (s : Session) : Follower :=
  let (view, changed) := f.view.refresh s.published
  let f := { f with view := view, seen := s.version }
  if changed then
    let (lines, last) := Plain.printNew view.visible f.last
    { f with last := last, lines := f.lines ++ lines }
  else f

/-- Follows a session from one published snapshot to the next, `fuel` of them at most, until
`stop` holds, the session ends or the moment `last` comes. -/
def followBy (stop : Simulation → Bool) (last : Nat) :
    Nat → Simulation → Follower → Simulation × Follower
  | 0, s, f => (s, f)
  | fuel + 1, s, f =>
    let s := s.advance
      (fun s => stop s || s.session.version != f.seen || !s.session.isOpen) last
    if s.session.version != f.seen then followBy stop last fuel s (f.observe s.session)
    else (s, f)

def follow (s : Simulation) (f : Follower) (stop : Simulation → Bool) (last : Nat) :
    Simulation × Follower :=
  followBy stop last (last - s.now + 2) s f

end Follower

end LogTail

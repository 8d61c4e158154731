import LogTail.Service.Query
import LogTail.Service.Reply
import LogTail.Store

/-!
The rules of synchronisation. An `Engine` says which queries to make and merges what they bring;
it makes none itself. Every query goes out with a `Ticket`, and an answer whose ticket belongs to
an epoch that has passed is dropped. Epochs and generations are natural numbers: as counters of
64 bits they are taken never to come to their end.
-/
namespace LogTail

inductive Phase
  | idle
  | loading
  | streaming
  | error
  | closed
  deriving DecidableEq, Repr

def Phase.name : Phase → String
  | idle => "idle"
  | loading => "loading"
  | streaming => "streaming"
  | error => "error"
  | closed => "closed"

inductive FetchKind
  | full
  | incremental
  deriving DecidableEq, Repr

structure Ticket where
  epoch : Nat
  kind : FetchKind
  query : Query
  deriving DecidableEq

inductive Completion
  | replaced (records : Nat)
  | appended (records : Nat) (evicted : Nat)
  | unchanged
  | dropped
  | failed (report : FaultReport)
  deriving DecidableEq, Repr

structure Engine where
  store : Store
  level : LevelFilter
  cursor : Cursor
  /-- Counts full loads and clears. -/
  epoch : Nat
  inFlight : Bool
  loading : Bool
  phase : Phase
  lastError : Option FaultReport
  limit : Option Nat
  /-- Counts changes of the records. -/
  generation : Nat

namespace Engine

def new (capacity : Nat) (limit : Option Nat) : Engine where
  store := .empty capacity
  level := none
  cursor := .absent
  epoch := 0
  inFlight := false
  loading := false
  phase := .idle
  lastError := none
  limit := limit
  generation := 0

def beginFullLoad (e : Engine) : Engine × Ticket :=
  ({ e with epoch := e.epoch + 1, cursor := .absent, loading := true, phase := .loading },
    ⟨e.epoch + 1, .full, .full e.level e.limit⟩)

def start (e : Engine) (level : LevelFilter) : Engine × Option Ticket :=
  if e.phase = .idle then
    let (e, t) := { e with level := level }.beginFullLoad
    (e, some t)
  else (e, none)

def setLevel (e : Engine) (level : LevelFilter) : Engine × Option Ticket :=
  if e.phase = .closed ∨ e.level = level then (e, none)
  else
    let (e, t) := { e with level := level }.beginFullLoad
    (e, some t)

def reload (e : Engine) : Engine × Option Ticket :=
  if e.phase = .closed then (e, none)
  else
    let (e, t) := e.beginFullLoad
    (e, some t)

/-- Asks for what is new: after a failed load for everything, and not while another such query is
under way or there is no position to go on from. -/
def tick (e : Engine) : Engine × Option Ticket :=
  match e.phase with
  | .idle | .loading | .closed => (e, none)
  | .error =>
    if e.loading then (e, none)
    else
      let (e, t) := e.beginFullLoad
      (e, some t)
  | .streaming =>
    if e.inFlight || e.cursor.isAbsent then (e, none)
    else
      ({ e with inFlight := true },
        some ⟨e.epoch, .incremental, .incremental e.level e.cursor⟩)

def completeFull (e : Engine) (result : Except Fault Page) : Engine × Completion :=
  let e := { e with loading := false }
  match result with
  | .ok page =>
    ({ e with
        store := e.store.replace page.records
        cursor := Cursor.absent.advance page.next
        phase := .streaming
        lastError := none
        generation := e.generation + 1 },
      .replaced page.records.length)
  | .error fault =>
    ({ e with phase := .error, lastError := some fault.report }, .failed fault.report)

/-- Takes the answer to an incremental query. Records must come with a position to go on
from. -/
def completeIncremental (e : Engine) (result : Except Fault Page) : Engine × Completion :=
  match result with
  | .error fault => ({ e with lastError := some fault.report }, .failed fault.report)
  | .ok page =>
    if page.records.isEmpty then
      ({ e with lastError := none, cursor := e.cursor.advance page.next }, .unchanged)
    else if page.next.isAbsent then
      let report : FaultReport := ⟨.protocol, "records returned without a cursor"⟩
      ({ e with lastError := some report }, .failed report)
    else
      let (store, evicted) := e.store.append page.records
      ({ e with
          store := store
          lastError := none
          cursor := e.cursor.advance page.next
          generation := e.generation + 1 },
        .appended page.records.length evicted)

def complete (e : Engine) (t : Ticket) (result : Except Fault Page) : Engine × Completion :=
  let e := if t.kind = .incremental then { e with inFlight := false } else e
  if e.phase = .closed ∨ t.epoch ≠ e.epoch then (e, .dropped)
  else
    match t.kind with
    | .full => e.completeFull result
    | .incremental => e.completeIncremental result

/-- Forgets all records after the service did, and waits for a reload. -/
def clearSucceeded (e : Engine) : Engine :=
  if e.phase = .closed then e
  else
    { e with
      store := e.store.clear
      cursor := .absent
      epoch := e.epoch + 1
      loading := false
      phase := .streaming
      lastError := none
      generation := e.generation + 1 }

/-- Ends the session; answers that come later are dropped. -/
def close (e : Engine) : Engine :=
  { e with phase := .closed, loading := false }

end Engine

end LogTail

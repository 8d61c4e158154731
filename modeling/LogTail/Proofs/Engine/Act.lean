import LogTail.Engine
import LogTail.Proofs.Cursor

/-!
What can be done to an engine, and all that can come of it. An act either asks the engine for its
next query, gives it the answer to an earlier one, or tells it that the log was cleared or that the
session ends. `turn` lists what each act finds and what it leaves, so that a fact about every run
needs one case for each line of that list.
-/
namespace LogTail

/-- A ticket, and the moment it was issued at. No two issues of a run have the same moment. -/
structure Issue where
  moment : Nat
  ticket : Ticket
  deriving DecidableEq

namespace Engine

inductive Request
  | start (level : LevelFilter)
  | setLevel (level : LevelFilter)
  | reload
  | tick
  deriving DecidableEq

inductive Act
  | ask (request : Request)
  | complete (issue : Issue) (result : Except Fault Page)
  | clearSucceeded
  | close
  | wait

/-- What an act makes of an engine: its state, the ticket it issues, and what it did with an
answer. -/
structure Reaction where
  engine : Engine
  ticket : Option Ticket := none
  completion : Option Completion := none

def ask (e : Engine) : Request → Engine × Option Ticket
  | .start level => e.start level
  | .setLevel level => e.setLevel level
  | .reload => e.reload
  | .tick => e.tick

def act (e : Engine) : Act → Reaction
  | .ask request => ⟨(e.ask request).1, (e.ask request).2, none⟩
  | .complete issue result =>
    ⟨(e.complete issue.ticket result).1, none, some (e.complete issue.ticket result).2⟩
  | .clearSucceeded => ⟨e.clearSucceeded, none, none⟩
  | .close => ⟨e.close, none, none⟩
  | .wait => ⟨e, none, none⟩

namespace Request

def level (e : Engine) : Request → LevelFilter
  | start level => level
  | setLevel level => level
  | reload => e.level
  | tick => e.level

def Loads (e : Engine) : Request → Prop
  | start _ => e.phase = .idle
  | setLevel level => e.phase ≠ .closed ∧ e.level ≠ level
  | reload => e.phase ≠ .closed
  | tick => e.phase = .error ∧ e.loading = false

/-- Nothing is loaded once the session has ended. -/
theorem Loads.open {e : Engine} {r : Request} (h : r.Loads e) : e.phase ≠ .closed := by
  intro hclosed
  cases r with
  | start level => exact Phase.noConfusion (hclosed.symm.trans h)
  | setLevel level => exact h.1 hclosed
  | reload => exact h hclosed
  | tick => exact Phase.noConfusion (hclosed.symm.trans h.1)

def Polls (e : Engine) (r : Request) : Prop :=
  r = tick ∧ e.phase = .streaming ∧ e.inFlight = false ∧ e.cursor.isAbsent = false

end Request

/-- The engine when the answer to a ticket has come but was not looked at. -/
def released (e : Engine) (t : Ticket) : Engine :=
  { e with inFlight := if t.kind = .incremental then false else e.inFlight }

def Accepts (e : Engine) (t : Ticket) : Prop :=
  e.phase ≠ .closed ∧ t.epoch = e.epoch

/-- Why an answer to an incremental query is turned down. -/
inductive Refusal : Except Fault Page → FaultReport → Prop
  | fault (fault : Fault) : Refusal (.error fault) fault.report
  | noCursor {page : Page} (some_record : page.records ≠ [])
      (no_cursor : page.next.isAbsent = true) :
      Refusal (.ok page) ⟨.protocol, "records returned without a cursor"⟩

/-- All that an act can find and leave behind. -/
inductive Turn (e : Engine) : Act → Reaction → Prop
  | wait : Turn e .wait ⟨e, none, none⟩
  | idle {r : Request} (no_load : ¬ r.Loads e) (no_poll : ¬ r.Polls e) :
      Turn e (.ask r) ⟨e, none, none⟩
  | load {r : Request} (loads : r.Loads e) :
      Turn e (.ask r)
        ⟨{ e with
            level := r.level e, epoch := e.epoch + 1, cursor := .absent, loading := true,
            phase := .loading },
          some ⟨e.epoch + 1, .full, .full (r.level e) e.limit⟩, none⟩
  | poll (polls : Request.tick.Polls e) :
      Turn e (.ask .tick)
        ⟨{ e with inFlight := true },
          some ⟨e.epoch, .incremental, .incremental e.level e.cursor⟩, none⟩
  | dropped {i : Issue} {result : Except Fault Page} (late : ¬ e.Accepts i.ticket) :
      Turn e (.complete i result) ⟨e.released i.ticket, none, some .dropped⟩
  | loaded {i : Issue} {page : Page} (live : e.Accepts i.ticket) (full : i.ticket.kind = .full) :
      Turn e (.complete i (.ok page))
        ⟨{ e with
            store := e.store.replace page.records, cursor := page.next, loading := false,
            phase := .streaming, lastError := none, generation := e.generation + 1 },
          none, some (.replaced page.records.length)⟩
  | loadFailed {i : Issue} {fault : Fault} (live : e.Accepts i.ticket)
      (full : i.ticket.kind = .full) :
      Turn e (.complete i (.error fault))
        ⟨{ e with loading := false, phase := .error, lastError := some fault.report },
          none, some (.failed fault.report)⟩
  | pollFailed {i : Issue} {result : Except Fault Page} {report : FaultReport}
      (live : e.Accepts i.ticket) (poll : i.ticket.kind = .incremental)
      (refused : Refusal result report) :
      Turn e (.complete i result)
        ⟨{ e with inFlight := false, lastError := some report }, none, some (.failed report)⟩
  | heartbeat {i : Issue} {page : Page} (live : e.Accepts i.ticket)
      (poll : i.ticket.kind = .incremental) (no_record : page.records = []) :
      Turn e (.complete i (.ok page))
        ⟨{ e with
            inFlight := false, lastError := none, cursor := e.cursor.advance page.next },
          none, some .unchanged⟩
  | merged {i : Issue} {page : Page} (live : e.Accepts i.ticket)
      (poll : i.ticket.kind = .incremental) (some_record : page.records ≠ [])
      (some_cursor : page.next.isAbsent = false) :
      Turn e (.complete i (.ok page))
        ⟨{ e with
            inFlight := false, store := (e.store.append page.records).1, lastError := none,
            cursor := e.cursor.advance page.next, generation := e.generation + 1 },
          none, some (.appended page.records.length (e.store.append page.records).2)⟩
  /-- A clear that a session which has ended hears of. -/
  | clearedLate (closed : e.phase = .closed) : Turn e .clearSucceeded ⟨e, none, none⟩
  | cleared (live : e.phase ≠ .closed) :
      Turn e .clearSucceeded
        ⟨{ e with
            store := e.store.clear, cursor := .absent, epoch := e.epoch + 1, loading := false,
            phase := .streaming, lastError := none, generation := e.generation + 1 },
          none, none⟩
  | closed : Turn e .close ⟨{ e with phase := .closed, loading := false }, none, none⟩

/-- A request that loads opens an epoch of its own, in which nothing is known yet. -/
theorem ask_of_loads {e : Engine} {r : Request} (h : r.Loads e) :
    e.ask r = ({ e with
        level := r.level e, epoch := e.epoch + 1, cursor := .absent, loading := true,
        phase := .loading },
      some ⟨e.epoch + 1, .full, .full (r.level e) e.limit⟩) := by
  cases r with
  | start level => exact (if_pos h).trans rfl
  | setLevel level => exact (if_neg (not_or.mpr h)).trans rfl
  | reload => exact (if_neg h).trans rfl
  | tick =>
    obtain ⟨hphase, hloading⟩ := h
    simp only [ask, tick, hphase, hloading, Bool.false_eq_true, if_false]
    rfl

/-- A poll asks for what comes after the cursor, and changes nothing but the flag. -/
theorem ask_of_polls {e : Engine} (h : Request.tick.Polls e) :
    e.ask .tick = ({ e with inFlight := true },
      some ⟨e.epoch, .incremental, .incremental e.level e.cursor⟩) := by
  obtain ⟨-, hphase, hfree, hcursor⟩ := h
  simp only [ask, tick, hphase, hfree, hcursor, Bool.or_self, Bool.false_eq_true, if_false]

/-- A request that neither loads nor polls leaves the engine as it is and issues no ticket. -/
theorem ask_of_idle {e : Engine} {r : Request} (no_load : ¬ r.Loads e) (no_poll : ¬ r.Polls e) :
    e.ask r = (e, none) := by
  cases r with
  | start level => exact if_neg no_load
  | setLevel level =>
    have h : e.phase = .closed ∨ e.level = level := by
      by_contra hne
      exact no_load (not_or.mp hne)
    exact if_pos h
  | reload => exact if_pos (not_not.mp no_load)
  | tick =>
    rw [ask, tick]
    cases hphase : e.phase with
    | idle => rfl
    | loading => rfl
    | closed => rfl
    | error =>
      have hloading : e.loading = true := by
        by_contra hne
        exact no_load ⟨hphase, Bool.eq_false_of_not_eq_true hne⟩
      exact if_pos hloading
    | streaming =>
      have hbusy : (e.inFlight || e.cursor.isAbsent) = true := by
        by_contra hne
        obtain ⟨hfree, hcursor⟩ := Bool.or_eq_false_iff.mp (Bool.eq_false_of_not_eq_true hne)
        exact no_poll ⟨rfl, hphase, hfree, hcursor⟩
      exact if_pos hbusy

/-- An answer that comes too late is not looked at: it does no more than lower the flag of its
query. -/
theorem complete_of_late {e : Engine} {t : Ticket} (result : Except Fault Page)
    (late : ¬ e.Accepts t) : e.complete t result = (e.released t, .dropped) := by
  have h : e.phase = .closed ∨ t.epoch ≠ e.epoch := by
    by_contra hne
    obtain ⟨hopen, hepoch⟩ := not_or.mp hne
    exact late ⟨hopen, not_not.mp hepoch⟩
  unfold complete released
  cases hk : t.kind with
  | full => exact if_pos h
  | incremental => exact if_pos h

theorem complete_full {e : Engine} {t : Ticket} (result : Except Fault Page)
    (live : e.Accepts t) (full : t.kind = .full) :
    e.complete t result = e.completeFull result := by
  have h : ¬ (e.phase = .closed ∨ t.epoch ≠ e.epoch) := fun hne =>
    hne.elim live.1 (fun hepoch => hepoch live.2)
  unfold complete
  rw [full]
  exact if_neg h

theorem complete_incremental {e : Engine} {t : Ticket} (result : Except Fault Page)
    (live : e.Accepts t) (poll : t.kind = .incremental) :
    e.complete t result = { e with inFlight := false }.completeIncremental result := by
  have h : ¬ (e.phase = .closed ∨ t.epoch ≠ e.epoch) := fun hne =>
    hne.elim live.1 (fun hepoch => hepoch live.2)
  unfold complete
  rw [poll]
  exact if_neg h

/-- The answer to a full load either takes the place of everything or leaves the records alone. -/
theorem turn_full {e : Engine} {i : Issue} (result : Except Fault Page)
    (live : e.Accepts i.ticket) (full : i.ticket.kind = .full) :
    e.Turn (.complete i result) (e.act (.complete i result)) := by
  rw [act, complete_full result live full]
  cases result with
  | error fault => exact .loadFailed live full
  | ok page =>
    rw [completeFull, Cursor.absent_advance]
    exact .loaded live full

/-- The answer to a poll is turned down, brings nothing new or is added. -/
theorem turn_incremental {e : Engine} {i : Issue} (result : Except Fault Page)
    (live : e.Accepts i.ticket) (poll : i.ticket.kind = .incremental) :
    e.Turn (.complete i result) (e.act (.complete i result)) := by
  rw [act, complete_incremental result live poll]
  cases result with
  | error fault => exact .pollFailed live poll (.fault fault)
  | ok page =>
    rw [completeIncremental]
    by_cases hempty : page.records = []
    · rw [if_pos (List.isEmpty_iff.mpr hempty)]
      exact .heartbeat live poll hempty
    · rw [if_neg (mt List.isEmpty_iff.mp hempty)]
      cases hnext : page.next.isAbsent with
      | true => exact .pollFailed live poll (.noCursor hempty hnext)
      | false => exact .merged live poll hempty hnext

/-- Every act is one of the listed turns. -/
theorem turn (e : Engine) (a : Act) : e.Turn a (e.act a) := by
  cases a with
  | ask r =>
    by_cases hload : r.Loads e
    · rw [act, ask_of_loads hload]
      exact .load hload
    by_cases hpoll : r.Polls e
    · obtain ⟨rfl, -⟩ := id hpoll
      rw [act, ask_of_polls hpoll]
      exact .poll hpoll
    · rw [act, ask_of_idle hload hpoll]
      exact .idle hload hpoll
  | complete i result =>
    by_cases hlive : e.Accepts i.ticket
    · cases hkind : i.ticket.kind with
      | full => exact turn_full result hlive hkind
      | incremental => exact turn_incremental result hlive hkind
    · rw [act, complete_of_late result hlive]
      exact .dropped hlive
  | clearSucceeded =>
    by_cases hclosed : e.phase = .closed
    · rw [act, clearSucceeded, if_pos hclosed]
      exact .clearedLate hclosed
    · rw [act, clearSucceeded, if_neg hclosed]
      exact .cleared hclosed
  | close => exact .closed
  | wait => exact .wait

/-- No act but the end closes an engine. -/
theorem closed_of_act {e : Engine} {a : Act} (h : (e.act a).engine.phase = .closed)
    (hne : a ≠ .close) : e.phase = .closed := by
  have hturn := e.turn a
  generalize e.act a = reaction at hturn h
  cases hturn with
  | wait => exact h
  | idle => exact h
  | load => exact Phase.noConfusion h
  | poll => exact h
  | dropped => exact h
  | loaded => exact Phase.noConfusion h
  | loadFailed => exact Phase.noConfusion h
  | pollFailed => exact h
  | heartbeat => exact h
  | merged => exact h
  | clearedLate closed => exact closed
  | cleared => exact Phase.noConfusion h
  | closed => exact absurd rfl hne

end Engine

end LogTail

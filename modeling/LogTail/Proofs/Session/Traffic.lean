import LogTail.Session
import LogTail.Proofs.Engine.Fate

/-!
A session among the calls that it makes. What it asks for is written down in the ledger of its
engine, so that every run of a session is a run of its engine too, and what holds of the one holds
of the other.
-/
namespace LogTail

open Engine

inductive Move
  | send (c : Command)
  | tick
  | take
  | fetched (issue : Issue) (result : Except Fault Page)
  | cleared (id : ClearId) (result : Except Fault Unit)
  | close

def Effect.ticket? : Effect → Option Ticket
  | .fetch ticket => some ticket
  | _ => none

def Effect.clearing? : Effect → Option ClearId
  | .clear id => some id
  | _ => none

def Command.act : Command → Act
  | .setLevel level => .ask (.setLevel level)
  | .reload => .ask .reload
  | .clear _ => .wait

namespace Session

def move (s : Session) : Move → Session × List Effect
  | .send c => (s.send c, [])
  | .tick => s.step .tick
  | .take => s.step .command
  | .fetched i result => s.step (.outcome (.fetched i.ticket result))
  | .cleared id result => s.step (.outcome (.cleared id result))
  | .close => s.step .close

def openAct (s : Session) : Move → Act
  | .send _ => .wait
  | .tick => .ask .tick
  | .take => (s.inbox.head?.map Command.act).getD .wait
  | .fetched i result => .complete i result
  | .cleared _ (.ok _) => .clearSucceeded
  | .cleared _ (.error _) => .wait
  | .close => .close

def act (s : Session) (m : Move) : Act :=
  if s.isOpen then s.openAct m else .wait

theorem publish_engine (s : Session) : s.publish.engine = s.engine := by
  unfold publish
  dsimp only
  split <;> rfl

theorem publish_isOpen (s : Session) : s.publish.isOpen = s.isOpen := by
  unfold publish
  dsimp only
  split <;> rfl

theorem tickets_fetch (ticket : Option Ticket) :
    (ticket.map Effect.fetch).toList.filterMap Effect.ticket? = ticket.toList := by
  cases ticket <;> rfl

theorem tickets_refusals (cs : List Command) :
    (refusals cs).filterMap Effect.ticket? = [] := by
  induction cs with
  | nil => rfl
  | cons c rest ih =>
    cases c with
    | setLevel _ => exact ih
    | reload => exact ih
    | clear _ => exact ih

/-- A session that has ended does nothing to its engine and makes no query. -/
theorem move_of_closed {s : Session} (h : s.isOpen = false) (m : Move) :
    (s.move m).1.engine = s.engine ∧ (s.move m).1.isOpen = false ∧
      (s.move m).2.filterMap Effect.ticket? = [] := by
  have hstep (event : Event) : s.step event = (s, disregard event) := by
    rw [step, h]
    rfl
  cases m with
  | send _ => exact ⟨rfl, h, rfl⟩
  | _ =>
    rw [move, hstep]
    exact ⟨rfl, h, rfl⟩

theorem step_of_open {s : Session} (h : s.isOpen = true) (event : Event) :
    s.step event = ((s.react event).1.publish, (s.react event).2) := by
  rw [step, if_pos h]

/-- A command does to the engine what its act does, and makes the query of that act. -/
theorem perform_engine (s : Session) (c : Command) :
    (s.perform c).1.engine = (s.engine.act c.act).engine ∧
      (s.perform c).2.filterMap Effect.ticket? = (s.engine.act c.act).ticket.toList := by
  cases c with
  | setLevel level => exact ⟨rfl, tickets_fetch _⟩
  | reload => exact ⟨rfl, tickets_fetch _⟩
  | clear _ => exact ⟨rfl, rfl⟩

/-- A move does to the engine what `act` says, and the queries that it makes are the tickets that
the engine issues. -/
theorem move_engine (s : Session) (m : Move) :
    (s.move m).1.engine = (s.engine.act (s.act m)).engine ∧
      (s.move m).2.filterMap Effect.ticket? = (s.engine.act (s.act m)).ticket.toList := by
  -- a session that has ended makes no act; else the moves are taken one by one
  cases hopen : s.isOpen with
  | false =>
    obtain ⟨hengine, -, htickets⟩ := move_of_closed hopen m
    rw [act, hopen]
    exact ⟨hengine, htickets⟩
  | true =>
    have hact : s.act m = s.openAct m := if_pos hopen
    rw [hact]
    cases m with
    | send _ => exact ⟨rfl, rfl⟩
    | tick =>
      rw [move, step_of_open hopen, publish_engine]
      exact ⟨rfl, tickets_fetch _⟩
    | take =>
      rw [move, step_of_open hopen, publish_engine]
      cases hinbox : s.inbox with
      | nil =>
        rw [react, openAct, hinbox]
        exact ⟨rfl, rfl⟩
      | cons c rest =>
        rw [react, openAct, hinbox]
        exact perform_engine { s with inbox := rest } c
    | fetched i result =>
      rw [move, step_of_open hopen, publish_engine]
      exact ⟨rfl, rfl⟩
    | cleared id result =>
      rw [move, step_of_open hopen, publish_engine]
      cases result with
      | ok _ => exact ⟨rfl, rfl⟩
      | error _ => exact ⟨rfl, rfl⟩
    | close =>
      rw [move, step_of_open hopen, publish_engine]
      exact ⟨rfl, tickets_refusals _⟩

theorem isOpen_of_move {s : Session} {m : Move} (h : (s.move m).1.isOpen = true) :
    s.isOpen = true := by
  by_contra hne
  obtain ⟨-, hclosed, -⟩ := move_of_closed (Bool.eq_false_of_not_eq_true hne) m
  exact Bool.noConfusion (h.symm.trans hclosed)

/-- A session that is open after a move was not ended by it. -/
theorem act_ne_close {s : Session} {m : Move} (h : (s.move m).1.isOpen = true) :
    s.act m ≠ .close := by
  have hopen := isOpen_of_move h
  have hact : s.act m = s.openAct m := if_pos hopen
  rw [hact]
  cases m with
  | close =>
    rw [move, step_of_open hopen, publish_isOpen] at h
    exact Bool.noConfusion h
  | take =>
    cases hinbox : s.inbox with
    | nil =>
      rw [openAct, hinbox]
      exact Act.noConfusion
    | cons c rest =>
      rw [openAct, hinbox]
      cases c <;> exact Act.noConfusion
  | cleared _ result => cases result <;> exact Act.noConfusion
  | _ => exact Act.noConfusion

end Session

/-- A session, the ledger of its engine, and the requests to clear the log that the service has not
answered yet. -/
structure Traffic where
  session : Session
  ledger : Ledger
  deleting : List ClearId

namespace Traffic

def start (capacity : ℕ) (limit : Option ℕ) (level : LevelFilter) : Traffic where
  session := (Session.start capacity limit level).1
  ledger := (Ledger.new capacity limit).note (.ask (.start level))
    (Session.start capacity limit level).1.engine
    ((Session.start capacity limit level).2.filterMap Effect.ticket?) none
  deleting := []

def unanswered (t : Traffic) : Move → List ClearId
  | .cleared id _ => t.deleting.erase id
  | _ => t.deleting

def move (t : Traffic) (m : Move) : Traffic where
  session := (t.session.move m).1
  ledger := t.ledger.note (t.session.act m) (t.session.move m).1.engine
    ((t.session.move m).2.filterMap Effect.ticket?)
    (t.session.engine.act (t.session.act m)).completion
  deleting := t.unanswered m ++ (t.session.move m).2.filterMap Effect.clearing?

/-- Whether a move can take place: the service answers each call at most once. -/
def Allows (t : Traffic) : Move → Prop
  | .fetched i _ => i ∈ t.ledger.waiting
  | .cleared id _ => id ∈ t.deleting
  | _ => True

inductive Run (t : Traffic) : Traffic → Prop
  | refl : Run t t
  | step {u : Traffic} {m : Move} (run : Run t u) (allowed : u.Allows m) : Run t (u.move m)

def replay (t : Traffic) (moves : List Move) : Traffic :=
  moves.foldl move t

def Valid (t : Traffic) : List Move → Prop
  | [] => True
  | m :: rest => t.Allows m ∧ (t.move m).Valid rest

theorem Run.trans {t u v : Traffic} (h : Run t u) (h' : Run u v) : Run t v := by
  induction h' with
  | refl => exact h
  | step _ allowed ih => exact .step ih allowed

theorem Run.of_valid {t : Traffic} {moves : List Move} (h : t.Valid moves) :
    Run t (t.replay moves) := by
  induction moves generalizing t with
  | nil => exact .refl
  | cons m rest ih => exact (Run.step .refl h.1).trans (ih h.2)

/-- Whether the ledger is that of the session's engine, which is open as long as the session is. -/
structure Kept (t : Traffic) : Prop where
  engine_eq : t.session.engine = t.ledger.engine
  live : t.session.isOpen = true → t.ledger.engine.phase ≠ .closed

theorem kept_start (capacity : ℕ) (limit : Option ℕ) (level : LevelFilter) :
    (start capacity limit level).Kept :=
  ⟨rfl, fun _ => Phase.noConfusion⟩

/-- The ledger of a session that has just begun is that of an engine that has just been started. -/
theorem ledger_start (capacity : ℕ) (limit : Option ℕ) (level : LevelFilter) :
    (start capacity limit level).ledger =
      (Ledger.new capacity limit).record (.ask (.start level)) :=
  rfl

variable {t u : Traffic}

/-- A move of the session is an act of its engine. -/
theorem Kept.ledger_move (h : t.Kept) (m : Move) :
    (t.move m).ledger = t.ledger.record (t.session.act m) := by
  obtain ⟨hengine, htickets⟩ := t.session.move_engine m
  rw [move, hengine, htickets, h.engine_eq, Ledger.record]

/-- One move keeps the ledger that of the engine. -/
theorem Kept.move (h : t.Kept) (m : Move) : (t.move m).Kept := by
  obtain ⟨hengine, -⟩ := t.session.move_engine m
  refine ⟨rfl, ?_⟩
  intro hopen hclosed
  have hlive := h.live (Session.isOpen_of_move hopen)
  have hwas : t.session.engine.phase = .closed := by
    apply closed_of_act (a := t.session.act m) _ (Session.act_ne_close hopen)
    rw [← hengine]
    exact hclosed
  exact hlive (h.engine_eq ▸ hwas)

/-- What a session may do its engine may do: only what waits is answered. -/
theorem allows_act {m : Move} (allowed : t.Allows m) :
    t.ledger.Allows Ledger.anything (t.session.act m) := by
  unfold Session.act
  split
  · cases m with
    | fetched i result =>
      cases result with
      | ok _ => exact ⟨allowed, trivial⟩
      | error _ => exact allowed
    | take =>
      rw [Session.openAct]
      cases t.session.inbox with
      | nil => trivial
      | cons c rest => cases c <;> trivial
    | cleared _ result => cases result <;> trivial
    | _ => trivial
  · trivial

/-- Every run of a session is a run of its engine. -/
theorem Run.ledger (h : t.Kept) (run : Run t u) :
    u.Kept ∧ Ledger.Run Ledger.anything t.ledger u.ledger := by
  induction run with
  | refl => exact ⟨h, .refl⟩
  | @step v m _ allowed ih =>
    obtain ⟨hkept, hrun⟩ := ih
    refine ⟨hkept.move m, ?_⟩
    rw [hkept.ledger_move m]
    exact .step hrun (allows_act allowed)

theorem Run.ledger_of_start {capacity : ℕ} {limit : Option ℕ} {level : LevelFilter}
    (run : Run (start capacity limit level) t) :
    t.Kept ∧ Ledger.Run Ledger.anything (Ledger.new capacity limit) t.ledger := by
  obtain ⟨hkept, hrun⟩ := run.ledger (kept_start capacity limit level)
  refine ⟨hkept, .trans (.step (a := .ask (.start level)) .refl trivial) ?_⟩
  rw [← ledger_start]
  exact hrun

end Traffic

end LogTail

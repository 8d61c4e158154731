import LogTail.Proofs.Session.Published

/-!
The level that a session asks the service for. A command that names a level waits in the inbox with
all others, and once it is taken up the engine has that level, whether it had to load anything for it
or not. So the level named last by a command that waits, or that of the engine where none does, is left
alone by everything but a new command. Every query asks for the level that the engine has then.
-/
namespace LogTail

open Engine

def Command.level? : Command → Option LevelFilter
  | .setLevel level => some level
  | _ => none

def Move.level? : Move → Option LevelFilter
  | .send c => c.level?
  | _ => none

namespace Engine

def Act.level? : Act → Option LevelFilter
  | .ask (.setLevel level) => some level
  | _ => none

/-- An engine has the level that was named last. -/
theorem level_act {e : Engine} (live : e.phase ≠ .closed) {a : Act}
    (begun : ∀ level, a ≠ .ask (.start level)) :
    (e.act a).engine.level = a.level?.getD e.level := by
  have hturn := e.turn a
  generalize e.act a = reaction at hturn ⊢
  cases hturn with
  | @idle r no_load =>
    cases r with
    | start level => exact absurd rfl (begun level)
    | setLevel level =>
      -- nothing is loaded for the level that the engine has already
      by_contra hne
      exact no_load ⟨live, hne⟩
    | reload => rfl
    | tick => rfl
  | @load r =>
    cases r with
    | start level => exact absurd rfl (begun level)
    | _ => rfl
  | clearedLate closed => exact absurd closed live
  | _ => rfl

/-- A query asks for the level that the engine has when it makes it. -/
theorem query_level_act (e : Engine) (a : Act) {ticket : Ticket}
    (h : ticket ∈ (e.act a).ticket) : ticket.query.level = (e.act a).engine.level := by
  have hturn := e.turn a
  generalize e.act a = reaction at hturn h ⊢
  cases hturn with
  | load =>
    rw [← Option.mem_some.mp h]
    rfl
  | poll =>
    rw [← Option.mem_some.mp h]
    rfl
  | _ => cases h

end Engine

namespace Session

def pendingLevels (s : Session) : List LevelFilter :=
  s.inbox.filterMap Command.level?

/-- The level that the session has when it has taken up all commands that wait. -/
def eventualLevel (s : Session) : LevelFilter :=
  s.pendingLevels.getLast?.getD s.engine.level

variable {s : Session}

theorem eventualLevel_of_nil (h : s.pendingLevels = []) : s.eventualLevel = s.engine.level := by
  rw [eventualLevel, h]
  rfl

theorem publish_inbox (s : Session) : s.publish.inbox = s.inbox := by
  unfold publish
  dsimp only
  split <;> rfl

theorem perform_inbox (s : Session) (c : Command) : (s.perform c).1.inbox = s.inbox := by
  cases c <;> rfl

theorem perform_isOpen (s : Session) (c : Command) : (s.perform c).1.isOpen = s.isOpen := by
  cases c <;> rfl

/-- What a move leaves in the inbox of a session that takes events. -/
theorem inbox_move (live : s.isOpen = true) (m : Move) :
    (s.move m).1.inbox = match m with
      | .send c => s.inbox ++ [c]
      | .take => s.inbox.tail
      | .close => []
      | _ => s.inbox := by
  cases m with
  | send c => rfl
  | take =>
    rw [move, step_of_open live, publish_inbox, react]
    cases hinbox : s.inbox with
    | nil => exact hinbox
    | cons c rest => exact perform_inbox { s with inbox := rest } c
  | cleared id result =>
    rw [move, step_of_open live, publish_inbox]
    cases result <;> rfl
  | _ =>
    rw [move, step_of_open live, publish_inbox]
    rfl

/-- A session that has ended takes up no command. -/
theorem inbox_move_of_closed (closed : s.isOpen = false) (m : Move) :
    (s.move m).1.inbox = match m with
      | .send c => s.inbox ++ [c]
      | _ => s.inbox := by
  have hstep (event : Event) : s.step event = (s, disregard event) := by
    rw [step, closed]
    rfl
  cases m with
  | send c => rfl
  | _ => rw [move, hstep]

/-- Only a command that names a level adds to those that wait. -/
theorem pendingLevels_move {m : Move} (unnamed : m.level? = none) :
    (s.move m).1.pendingLevels <:+ s.pendingLevels := by
  have hsent {c : Command} (h : c.level? = none) :
      (s.inbox ++ [c]).filterMap Command.level? = s.pendingLevels := by
    rw [List.filterMap_append, List.filterMap_cons_none h, List.filterMap_nil, List.append_nil]
    rfl
  unfold pendingLevels
  cases hopen : s.isOpen with
  | false =>
    rw [inbox_move_of_closed hopen]
    cases m with
    | send c => exact (hsent unnamed).symm ▸ List.suffix_rfl
    | _ => exact List.suffix_rfl
  | true =>
    rw [inbox_move hopen]
    cases m with
    | send c => exact (hsent unnamed).symm ▸ List.suffix_rfl
    | take => exact (List.tail_suffix s.inbox).filterMap Command.level?
    | close => exact List.nil_suffix
    | _ => exact List.suffix_rfl

theorem pendingLevels_move_nil {m : Move} (none_waits : s.pendingLevels = [])
    (unnamed : m.level? = none) : (s.move m).1.pendingLevels = [] := by
  have hfewer := pendingLevels_move (s := s) unnamed
  rw [none_waits] at hfewer
  exact List.eq_nil_of_suffix_nil hfewer

/-- No level waits as long as none is named. -/
theorem pendingLevels_after_nil {moves : List Move} (none_waits : s.pendingLevels = [])
    (unnamed : ∀ m ∈ moves, m.level? = none) : (s.after moves).pendingLevels = [] := by
  induction moves generalizing s with
  | nil => exact none_waits
  | cons m rest ih =>
    obtain ⟨hfirst, hrest⟩ := List.forall_mem_cons.mp unnamed
    exact ih (pendingLevels_move_nil none_waits hfirst) hrest

/-- The engine of a session that goes on does not end. -/
theorem live_move {m : Move} (live : s.engine.phase ≠ .closed) (still : (s.move m).1.isOpen = true) :
    (s.move m).1.engine.phase ≠ .closed := by
  intro hclosed
  rw [(s.move_engine m).1] at hclosed
  exact live (closed_of_act hclosed (act_ne_close still))

/-- The same of a run. -/
theorem live_after {moves : List Move} (live : s.engine.phase ≠ .closed)
    (still : (s.after moves).isOpen = true) : (s.after moves).engine.phase ≠ .closed := by
  induction moves using List.reverseRecOn with
  | nil => exact live
  | append_singleton before m ih =>
    have hstep : s.after (before ++ [m]) = ((s.after before).move m).1 := by
      rw [after, List.foldl_append]
      rfl
    rw [hstep] at still ⊢
    exact live_move (ih (isOpen_of_move still)) still

/-- No move of a session begins the engine again. -/
theorem openAct_ne_start (s : Session) (m : Move) (level : LevelFilter) :
    s.openAct m ≠ .ask (.start level) := by
  cases m with
  | take =>
    rw [openAct]
    cases s.inbox with
    | nil => exact Act.noConfusion
    | cons c rest => cases c <;> simp [Command.act]
  | cleared id result => cases result <;> simp [openAct]
  | _ => simp [openAct]

theorem level_move {m : Move} (live : s.engine.phase ≠ .closed) (still : (s.move m).1.isOpen = true) :
    (s.move m).1.engine.level = (s.openAct m).level?.getD s.engine.level := by
  have hact : s.act m = s.openAct m := if_pos (isOpen_of_move still)
  rw [(s.move_engine m).1, hact, level_act live (s.openAct_ne_start m)]

/-- A command to come changes the level that the session ends up with, and nothing else does. -/
theorem eventualLevel_move {m : Move} (live : s.engine.phase ≠ .closed)
    (still : (s.move m).1.isOpen = true) :
    (s.move m).1.eventualLevel = m.level?.getD s.eventualLevel := by
  have hopen : s.isOpen = true := isOpen_of_move still
  have hlevel := level_move live still
  unfold eventualLevel pendingLevels
  rw [inbox_move hopen, hlevel]
  cases m with
  | send c => cases c <;> simp [Move.level?, Command.level?, openAct, Act.level?]
  | take =>
    -- the level of the command taken up counts only if no other one waits
    cases hinbox : s.inbox with
    | nil => simp [Move.level?, openAct, hinbox, Act.level?]
    | cons c rest =>
      cases c <;>
        simp [Move.level?, Command.level?, openAct, hinbox, Command.act, Act.level?,
          List.getLast?_cons]
  | close =>
    rw [move, step_of_open hopen, publish_isOpen] at still
    exact Bool.noConfusion still
  | cleared id result => cases result <;> rfl
  | _ => rfl

/-- A session that makes a query goes on taking events. -/
theorem isOpen_of_query {m : Move} {ticket : Ticket}
    (h : ticket ∈ (s.move m).2.filterMap Effect.ticket?) : (s.move m).1.isOpen = true := by
  cases hopen : s.isOpen with
  | false =>
    obtain ⟨-, -, hnone⟩ := move_of_closed hopen m
    rw [hnone] at h
    cases h
  | true =>
    cases m with
    | send c => exact hopen
    | close =>
      have hnone : (s.move .close).2.filterMap Effect.ticket? = [] := by
        rw [move, step_of_open hopen]
        exact tickets_refusals s.inbox
      rw [hnone] at h
      cases h
    | take =>
      rw [move, step_of_open hopen, publish_isOpen, react]
      cases s.inbox with
      | nil => exact hopen
      | cons c rest => exact (perform_isOpen _ c).trans hopen
    | cleared id result =>
      rw [move, step_of_open hopen, publish_isOpen]
      cases result <;> exact hopen
    | _ =>
      rw [move, step_of_open hopen, publish_isOpen]
      exact hopen

/-- Every query of a session asks for the level that its engine has then. -/
theorem query_level_move {m : Move} {ticket : Ticket}
    (h : ticket ∈ (s.move m).2.filterMap Effect.ticket?) :
    ticket.query.level = (s.move m).1.engine.level := by
  obtain ⟨hengine, htickets⟩ := s.move_engine m
  rw [htickets, Option.mem_toList] at h
  rw [hengine]
  exact query_level_act _ _ h

end Session

end LogTail

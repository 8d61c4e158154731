import LogTail.Proofs.View.Printer
import LogTail.Tail

/-!
The program that prints the log, as a run of a printer. Whatever a simulation does to its session is made
up of moves, and a follower refreshes its view and prints what is new if anything has changed.
-/
namespace LogTail

namespace Session

def Reaches (s t : Session) : Prop :=
  ∃ moves, t = s.after moves

variable {s t u : Session}

theorem Reaches.refl (s : Session) : s.Reaches s :=
  ⟨[], rfl⟩

theorem Reaches.trans (h : s.Reaches t) (h' : t.Reaches u) : s.Reaches u := by
  obtain ⟨moves, rfl⟩ := h
  obtain ⟨more, rfl⟩ := h'
  exact ⟨moves ++ more, List.foldl_append.symm⟩

/-- An event takes a session where some moves take it. -/
theorem reaches_step (s : Session) (event : Event) : s.Reaches (s.step event).1 := by
  -- an outcome does not say which issue it is for, and a session does not ask
  cases event with
  | tick => exact ⟨[.tick], rfl⟩
  | command => exact ⟨[.take], rfl⟩
  | outcome o =>
    cases o with
    | fetched ticket result => exact ⟨[.fetched ⟨0, ticket⟩ result], rfl⟩
    | cleared id result => exact ⟨[.cleared id result], rfl⟩
  | close => exact ⟨[.close], rfl⟩

end Session

namespace Simulation

theorem session_carryOut (s : Simulation) (effect : Effect) :
    (s.carryOut effect).session = s.session := by
  cases effect <;> rfl

theorem session_foldl_carryOut (s : Simulation) (effects : List Effect) :
    (effects.foldl carryOut s).session = s.session := by
  induction effects generalizing s with
  | nil => rfl
  | cons effect rest ih => exact (ih _).trans (s.session_carryOut effect)

theorem reaches_happen (s : Simulation) (event : Event) :
    s.session.Reaches (s.happen event).session := by
  rw [happen, session_foldl_carryOut]
  exact s.session.reaches_step event

theorem reaches_foldl {α : Type} {f : Simulation → α → Simulation}
    (h : ∀ (t : Simulation) a, t.session.Reaches (f t a).session) (s : Simulation) (xs : List α) :
    s.session.Reaches (xs.foldl f s).session := by
  induction xs generalizing s with
  | nil => exact .refl _
  | cons x rest ih => exact (h s x).trans (ih (f s x))

theorem reaches_begin (s : Simulation) : s.session.Reaches s.begin.session := by
  have hinitial := session_foldl_carryOut { s with initial := [] } s.initial
  unfold begin
  dsimp only
  split
  · have hclose := (s.initial.foldl carryOut { s with initial := [] }).reaches_happen .close
    rw [hinitial] at hclose
    exact hclose
  · rw [hinitial]
    exact .refl _

theorem reaches_fireTimer (s : Simulation) : s.session.Reaches s.fireTimer.session := by
  unfold fireTimer
  split
  · exact reaches_happen { s with nextTick := s.nextTick + s.period } .tick
  · exact .refl _

theorem reaches_endCalls (s : Simulation) : s.session.Reaches s.endCalls.session :=
  reaches_foldl (fun t _ => t.reaches_happen _) { s with pending := _, lostGates := _ } _

theorem reaches_settle (s : Simulation) : s.session.Reaches s.settle.session := by
  have hcommands : s.begin.session.Reaches s.begin.takeCommands.session :=
    reaches_foldl (fun t _ => t.reaches_happen .command) _ _
  exact ((s.reaches_begin.trans hcommands).trans (reaches_fireTimer _)).trans (reaches_endCalls _)

/-- Time moves a simulated session on by moves, for as long as the fuel lasts. -/
theorem reaches_advanceBy (stop : Simulation → Bool) (last fuel : ℕ) (s : Simulation) :
    s.session.Reaches (advanceBy stop last fuel s).session := by
  induction fuel generalizing s with
  | zero => exact .refl _
  | succ fuel ih =>
    unfold advanceBy
    split
    · exact .refl _
    · split
      · exact .refl _
      case _ t _ => exact (reaches_settle { s with now := t }).trans (ih _)

theorem reaches_advance (s : Simulation) (stop : Simulation → Bool) (last : ℕ) :
    s.session.Reaches (s.advance stop last).session :=
  s.reaches_settle.trans (reaches_advanceBy stop last _ _)

end Simulation

namespace Printer

/-- Whether a printer is where a simulation and its follower are. -/
structure Matches (p : Printer) (s : Simulation) (f : Follower) : Prop where
  session_eq : p.reader.session = s.session
  view_eq : p.reader.view = f.view
  last_eq : p.last = f.last
  lines_eq : p.lines = f.lines

variable {p : Printer} {s t : Simulation} {f : Follower}

theorem after_moves (p : Printer) (moves : List Move) :
    p.after (moves.map .move) =
      { p with reader := { p.reader with session := p.reader.session.after moves } } := by
  induction moves generalizing p with
  | nil => rfl
  | cons m rest ih => exact ih (p.step (.move m))

/-- Where the session is moved on, the printer can be moved on with it. -/
theorem Matches.advance (h : p.Matches s f) (hreaches : s.session.Reaches t.session) :
    ∃ turns, (p.after turns).Matches t f := by
  obtain ⟨moves, hmoves⟩ := hreaches
  refine ⟨moves.map .move, ?_⟩
  rw [after_moves]
  refine ⟨?_, h.view_eq, h.last_eq, h.lines_eq⟩
  rw [hmoves, ← h.session_eq]

/-- A look at a session is a refresh, and a print if that changed anything. -/
theorem Matches.observe (h : p.Matches s f) :
    ∃ turns, (p.after turns).Matches s (f.observe s.session) := by
  obtain ⟨hsession, hview, hlast, hlines⟩ := h
  -- the follower prints only if the refresh has changed anything
  unfold Follower.observe
  rw [← hview, ← hsession, ← hlast, ← hlines]
  dsimp only
  split
  · exact ⟨[.refresh, .print], hsession, rfl, rfl, rfl⟩
  · exact ⟨[.refresh], hsession, rfl, rfl, rfl⟩

/-- A follower is matched by turns of the printer, by induction on the fuel. -/
theorem Matches.followBy (h : p.Matches s f) (stop : Simulation → Bool) (last fuel : ℕ) :
    ∃ turns, (p.after turns).Matches (Follower.followBy stop last fuel s f).1
      (Follower.followBy stop last fuel s f).2 := by
  induction fuel generalizing p s f with
  | zero => exact ⟨[], h⟩
  | succ fuel ih =>
    unfold Follower.followBy
    obtain ⟨turns, hadvance⟩ := h.advance (s.reaches_advance _ last)
    dsimp only
    split
    · obtain ⟨more, hobserve⟩ := hadvance.observe
      obtain ⟨rest, hrest⟩ := ih hobserve
      refine ⟨turns ++ (more ++ rest), ?_⟩
      rw [after, List.foldl_append, List.foldl_append]
      exact hrest
    · exact ⟨turns, hadvance⟩

theorem Matches.lines_followBy (h : p.Matches s f) (stop : Simulation → Bool) (last fuel : ℕ) :
    ∃ turns, (Follower.followBy stop last fuel s f).2.lines = (p.after turns).lines := by
  obtain ⟨turns, hfollow⟩ := h.followBy stop last fuel
  exact ⟨turns, hfollow.lines_eq.symm⟩

/-- What the program prints is what a printer prints, at some choice of moments. -/
theorem tail_eq_lines (startup : Startup) (responses : List Response) :
    ∃ turns, (tail startup responses).1 =
      ((begun startup.settings.session.capacity startup.settings.session.limit startup.settings.level
        (.units startup.settings.pinRows)).after turns).lines := by
  dsimp only [tail, Follower.follow]
  exact Matches.lines_followBy ⟨rfl, rfl, rfl, rfl⟩ _ _ _

end Printer

end LogTail

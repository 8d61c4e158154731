import LogTail.Proofs.Engine.Generation
import LogTail.Proofs.Session.Traffic

/-!
The snapshot that a session publishes. After every event it is the snapshot of the engine, also
where the session has found nothing new and has published none.
-/
namespace LogTail

open Engine

/-- Whether the snapshot published last shows the engine as it is, with the right counts. -/
structure Session.Current (s : Session) : Prop where
  published_eq : s.published = .ofEngine s.engine
  counted : s.engine.store.Counted

namespace Session

def after (s : Session) (moves : List Move) : Session :=
  moves.foldl (fun s m => (s.move m).1) s

theorem precedes_move (s : Session) (m : Move) : s.engine.Precedes (s.move m).1.engine := by
  rw [(s.move_engine m).1]
  exact s.engine.precedes_act _

/-- Of two moments of a session, the later one has an engine that the earlier one's may have
become. -/
theorem precedes_take (s : Session) (moves : List Move) {i j : ℕ} (h : i ≤ j) :
    (s.after (moves.take i)).engine.Precedes (s.after (moves.take j)).engine :=
  foldl_take_related (R := fun s t => s.engine.Precedes t.engine) (fun s => .refl s.engine)
    (fun _ _ _ => Precedes.trans) precedes_move s moves h

/-- Publishing nothing is right where the engine was published before, in whatever state it was
then. -/
theorem publish_published {s : Session} {e : Engine} (hpublished : s.published = .ofEngine e)
    (h : e.Precedes s.engine) : s.publish.published = .ofEngine s.engine := by
  unfold publish
  dsimp only
  split
  case isTrue same =>
    rw [hpublished] at same
    exact hpublished.trans (Snapshot.eq_of_sameAs h same).symm
  case isFalse => rfl

/-- An event changes what is published only by publishing. -/
theorem react_published (s : Session) (event : Event) :
    (s.react event).1.published = s.published := by
  cases event with
  | tick => rfl
  | command =>
    rw [react]
    cases s.inbox with
    | nil => rfl
    | cons c rest => cases c <;> rfl
  | outcome o =>
    cases o with
    | fetched _ _ => rfl
    | cleared _ result => cases result <;> rfl
  | close => rfl

/-- An event leaves the engine published as it leaves it. -/
theorem step_published {s : Session} (h : s.published = .ofEngine s.engine) (event : Event)
    (hengine : s.engine.Precedes (s.step event).1.engine) :
    (s.step event).1.published = .ofEngine (s.step event).1.engine := by
  cases hopen : s.isOpen with
  | false =>
    have hstep : s.step event = (s, disregard event) := by
      rw [step, hopen]
      rfl
    rw [hstep]
    exact h
  | true =>
    rw [step_of_open hopen, publish_engine] at hengine ⊢
    exact publish_published ((react_published s event).trans h) hengine

/-- After each move the published snapshot is that of the engine. -/
theorem published_move {s : Session} (h : s.published = .ofEngine s.engine) (m : Move) :
    (s.move m).1.published = .ofEngine (s.move m).1.engine := by
  have hengine := s.precedes_move m
  cases m with
  | send _ => exact h
  | tick => exact step_published h .tick hengine
  | take => exact step_published h .command hengine
  | fetched i result => exact step_published h (.outcome (.fetched i.ticket result)) hengine
  | cleared id result => exact step_published h (.outcome (.cleared id result)) hengine
  | close => exact step_published h .close hengine

theorem start_current (capacity : ℕ) (limit : Option ℕ) (level : LevelFilter) :
    (start capacity limit level).1.Current :=
  ⟨rfl, Store.empty_counted capacity⟩

theorem Current.move {s : Session} (h : s.Current) (m : Move) : (s.move m).1.Current := by
  refine ⟨published_move h.published_eq m, ?_⟩
  rw [(s.move_engine m).1]
  exact counted_act h.counted _

/-- The snapshot is current all through a run. -/
theorem Current.after {s : Session} (h : s.Current) (moves : List Move) :
    (s.after moves).Current := by
  induction moves generalizing s with
  | nil => exact h
  | cons m rest ih => exact ih (h.move m)

/-- Snapshots taken at two moments of a session hold the same if they pass for the same. -/
theorem snapshot_eq_of_sameAs (s : Session) (moves : List Move) (i j : ℕ)
    (same : (Snapshot.ofEngine (s.after (moves.take i)).engine).sameAs
      (.ofEngine (s.after (moves.take j)).engine) = true) :
    Snapshot.ofEngine (s.after (moves.take i)).engine =
      .ofEngine (s.after (moves.take j)).engine := by
  rcases Nat.le_total i j with hij | hji
  · exact (Snapshot.eq_of_sameAs (s.precedes_take moves hij) same).symm
  · rw [Snapshot.sameAs_comm] at same
    exact Snapshot.eq_of_sameAs (s.precedes_take moves hji) same

end Session

end LogTail

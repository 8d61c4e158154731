import LogTail.Proofs.Engine.Outstanding

/-!
Answers that come late. Whatever overlaps, an answer changes the records, the cursor or the
generation only if its ticket is the newest of all full loads and younger than every clear, and
asked for the level that the engine asks for now. Epochs never go back, and an engine that was
closed stays as it is.
-/
namespace LogTail

open Engine

def Engine.Alters (e e' : Engine) : Prop :=
  e'.store ≠ e.store ∨ e'.cursor ≠ e.cursor ∨ e'.generation ≠ e.generation

namespace Ledger

/-- An answer that alters the engine was not too late. -/
theorem accepts_of_alters {e : Engine} {i : Issue} {result : Except Fault Page}
    (h : e.Alters (e.complete i.ticket result).1) : e.Accepts i.ticket := by
  by_contra late
  rw [complete_of_late result late] at h
  rcases h with hstore | hcursor | hgeneration
  · exact hstore rfl
  · exact hcursor rfl
  · exact hgeneration rfl

/-- No act takes the engine back to an earlier epoch. -/
theorem epoch_le_record (l : Ledger) (a : Act) :
    l.engine.epoch ≤ (l.record a).engine.epoch := by
  have hturn := l.engine.turn a
  unfold record note
  generalize l.engine.act a = reaction at hturn ⊢
  cases hturn with
  | load => exact Nat.le_succ _
  | cleared => exact Nat.le_succ _
  | _ => exact Nat.le_refl _

theorem Run.epoch_le {supply : Supply} {l m : Ledger} (run : Run supply l m) :
    l.engine.epoch ≤ m.engine.epoch :=
  run.keeps (P := fun n => l.engine.epoch ≤ n.engine.epoch) (Nat.le_refl _)
    fun n a h _ => h.trans (n.epoch_le_record a)

/-- Nothing happens to an engine that was closed, but that it hears of polls being answered. -/
theorem record_of_closed {l : Ledger} (hg : l.Guarded) (closed : l.engine.phase = .closed)
    (a : Act) : (l.record a).issued = l.issued ∧
      (l.record a).engine = { l.engine with inFlight := (l.record a).engine.inFlight } := by
  have hturn := l.engine.turn a
  have hloading : l.engine.loading = false := by
    apply hg.not_loading
    rw [closed]
    exact Phase.noConfusion
  unfold record note
  generalize l.engine.act a = reaction at hturn ⊢
  cases hturn with
  | wait => exact ⟨List.append_nil _, rfl⟩
  | idle => exact ⟨List.append_nil _, rfl⟩
  | load loads => exact absurd closed loads.open
  | poll polls => exact Phase.noConfusion (closed.symm.trans polls.2.1)
  | dropped => exact ⟨List.append_nil _, rfl⟩
  | loaded live => exact absurd closed live.1
  | loadFailed live => exact absurd closed live.1
  | pollFailed live => exact absurd closed live.1
  | heartbeat live => exact absurd closed live.1
  | merged live => exact absurd closed live.1
  | clearedLate => exact ⟨List.append_nil _, rfl⟩
  | cleared live => exact absurd closed live
  | closed =>
    refine ⟨List.append_nil _, ?_⟩
    rw [← closed, ← hloading]

/-- Nothing happens any more once the engine was closed. -/
theorem Run.closed {supply : Supply} {l m : Ledger} (hd : l.Dated) (hg : l.Guarded)
    (closed : l.engine.phase = .closed) (run : Run supply l m) :
    m.issued = l.issued ∧ m.engine = { l.engine with inFlight := m.engine.inFlight } := by
  have h := run.keeps (P := fun n => n.Dated ∧ n.Guarded ∧ n.issued = l.issued ∧
      n.engine = { l.engine with inFlight := n.engine.inFlight }) ⟨hd, hg, rfl, rfl⟩ ?_
  · exact h.2.2
  · rintro n a ⟨hnd, hng, hissued, hengine⟩ allowed
    have hclosed : n.engine.phase = .closed := by
      rw [hengine]
      exact closed
    obtain ⟨hissued', hengine'⟩ := record_of_closed hng hclosed a
    refine ⟨hnd.record a, hng.record hnd allowed, hissued'.trans hissued, ?_⟩
    rw [hengine', hengine]

/-- Late answers change nothing. An answer that alters the engine finds it open, was asked for with
the engine's level, and its ticket is younger than every clear and than every full load but itself.
Each full load has a later epoch than the one before, epochs never go back, and after the end
nothing is issued and nothing changes. -/
theorem late_answers_change_nothing {capacity : ℕ} {limit : Option ℕ} {l : Ledger}
    (run : Run anything (new capacity limit) l) :
    (∀ i ∈ l.waiting, ∀ result, l.engine.Alters (l.engine.complete i.ticket result).1 →
      l.engine.phase ≠ .closed ∧ i.ticket.query.level = l.engine.level ∧
      (∀ j ∈ l.issued, j.ticket.kind = .full → j ≠ i → j.moment < i.moment) ∧
      ∀ m ∈ l.clears, m < i.moment) ∧
    (l.issued.filter (·.ticket.kind = .full)).Pairwise
      (fun i j => i.ticket.epoch < j.ticket.epoch) ∧
    (∀ m, Run anything l m → l.engine.epoch ≤ m.engine.epoch) ∧
    (l.engine.phase = .closed → ∀ m, Run anything l m →
      m.issued = l.issued ∧ m.engine = { l.engine with inFlight := m.engine.inFlight }) := by
  have hd := run.dated
  refine ⟨?_, hd.loads_rise, fun m later => later.epoch_le, ?_⟩
  · intro i hi result halters
    obtain ⟨hopen, hepoch⟩ := accepts_of_alters halters
    have hissued := hd.waiting_issued i hi
    exact ⟨hopen, hd.level_eq i hissued hepoch, hd.after_loads i hissued hepoch,
      hd.after_clears hopen i hissued hepoch⟩
  · intro hclosed m later
    exact later.closed hd run.guarded hclosed

/-- A poll is under way when the level changes, and the answer to the new full load is there before
that to the poll. -/
def overtakenPoll : List Act :=
  [.ask (.start none),
    .complete ⟨0, 1, .full, .full none none⟩ (.ok ⟨[], .ofToken "t1"⟩),
    .ask .tick,
    .ask (.setLevel (some .error))]

/-- At such a moment the poll waits beside the full load, and only the answer to the full load can
alter anything. -/
theorem late_answers_change_nothing_overtaken :
    Run anything (new 2 none) ((new 2 none).replay overtakenPoll) ∧
    ((new 2 none).replay overtakenPoll).waiting.length = 2 ∧
    ∀ i ∈ ((new 2 none).replay overtakenPoll).waiting, ∀ result,
      ((new 2 none).replay overtakenPoll).engine.Alters
        (((new 2 none).replay overtakenPoll).engine.complete i.ticket result).1 →
      i.ticket.query.level = some .error := by
  have run : Run anything (new 2 none) ((new 2 none).replay overtakenPoll) :=
    .of_valid ⟨trivial, ⟨by decide, trivial⟩, trivial, trivial, trivial⟩
  refine ⟨run, by decide, ?_⟩
  intro i hi result halters
  exact ((late_answers_change_nothing run).1 i hi result halters).2.1

end Ledger

end LogTail

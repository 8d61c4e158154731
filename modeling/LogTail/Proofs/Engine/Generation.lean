import LogTail.Proofs.Engine.Act
import LogTail.Proofs.Store.Counts
import LogTail.Session.Snapshot

/-!
The generation as a mark of the records. No act takes it back, and an act that does anything to the
buffer takes it on; so the buffer is the same at any two moments of a run with one generation,
whatever came in between. Two snapshots of a run that agree in what `Snapshot.sameAs` compares
therefore agree in all they hold.
-/
namespace LogTail

open Engine

/-- What every step keeps relates each moment of a run to all later ones. -/
theorem foldl_take_related {σ α : Type*} {f : σ → α → σ} {R : σ → σ → Prop} (refl : ∀ s, R s s)
    (trans : ∀ s t u, R s t → R t u → R s u) (step : ∀ s a, R s (f s a)) (s : σ) (xs : List α)
    {i j : ℕ} (h : i ≤ j) : R ((xs.take i).foldl f s) ((xs.take j).foldl f s) := by
  have hrun (s : σ) (xs : List α) : R s (xs.foldl f s) := by
    induction xs generalizing s with
    | nil => exact refl s
    | cons x rest ih => exact trans _ _ _ (step s x) (ih (f s x))
  have hcut : (xs.take j).take i = xs.take i := by rw [List.take_take, Nat.min_eq_left h]
  rw [← List.take_append_drop i (xs.take j), hcut, List.foldl_append]
  exact hrun _ _

/-- Whether one engine may have become the other: the generation has not gone back, and if it is
the same then so is the buffer. -/
structure Engine.Precedes (e later : Engine) : Prop where
  generation_le : e.generation ≤ later.generation
  store_eq : later.generation = e.generation → later.store = e.store

def Engine.after (e : Engine) (acts : List Act) : Engine :=
  acts.foldl (fun e a => (e.act a).engine) e

namespace Engine

theorem Precedes.refl (e : Engine) : e.Precedes e :=
  ⟨Nat.le_refl _, fun _ => rfl⟩

theorem Precedes.trans {e m later : Engine} (h : e.Precedes m) (h' : m.Precedes later) :
    e.Precedes later := by
  refine ⟨h.generation_le.trans h'.generation_le, ?_⟩
  intro heq
  -- one generation at both ends leaves no other for the middle
  have hle := h.generation_le
  have hle' := h'.generation_le
  have hleft : m.generation = e.generation := by omega
  have hright : later.generation = m.generation := by omega
  exact (h'.store_eq hright).trans (h.store_eq hleft)

/-- Where the generation has grown, the buffer may be any. -/
theorem Precedes.of_newer {e later : Engine} (h : later.generation = e.generation + 1) :
    e.Precedes later := by
  refine ⟨by omega, ?_⟩
  intro heq
  omega

theorem Precedes.of_kept {e later : Engine} (hgeneration : later.generation = e.generation)
    (hstore : later.store = e.store) : e.Precedes later :=
  ⟨hgeneration.ge, fun _ => hstore⟩

/-- One act never takes the generation back, and changes the buffer only with it. -/
theorem precedes_act (e : Engine) (a : Act) : e.Precedes (e.act a).engine := by
  have hturn := e.turn a
  generalize e.act a = reaction at hturn ⊢
  cases hturn with
  | loaded => exact .of_newer rfl
  | merged => exact .of_newer rfl
  | cleared => exact .of_newer rfl
  | _ => exact .of_kept rfl rfl

/-- Of two moments of a run, the later one has a state that the earlier one may have become. -/
theorem precedes_take (e : Engine) (acts : List Act) {i j : ℕ} (h : i ≤ j) :
    (e.after (acts.take i)).Precedes (e.after (acts.take j)) :=
  foldl_take_related Precedes.refl (fun _ _ _ => Precedes.trans) precedes_act e acts h

/-- The buffer is the same whenever the generation is. -/
theorem store_eq_of_generation_eq (e : Engine) (acts : List Act) (i j : ℕ)
    (h : (e.after (acts.take i)).generation = (e.after (acts.take j)).generation) :
    (e.after (acts.take i)).store = (e.after (acts.take j)).store := by
  rcases Nat.le_total i j with hij | hji
  · exact ((e.precedes_take acts hij).store_eq h.symm).symm
  · exact (e.precedes_take acts hji).store_eq h

/-- One act keeps the counts those of the records. -/
theorem counted_act {e : Engine} (h : e.store.Counted) (a : Act) :
    (e.act a).engine.store.Counted := by
  have hturn := e.turn a
  generalize e.act a = reaction at hturn ⊢
  cases hturn with
  | loaded => exact Store.replace_counted _ _
  | merged => exact Store.append_counted h _
  | cleared => exact Store.clear_counted _
  | _ => exact h

end Engine

/-- What a snapshot leaves out of a comparison is settled by what it compares. -/
theorem Snapshot.eq_of_sameAs {e later : Engine} (h : e.Precedes later)
    (same : (ofEngine e).sameAs (ofEngine later) = true) : ofEngine later = ofEngine e := by
  simp only [sameAs, ofEngine, Bool.and_eq_true, beq_iff_eq] at same
  obtain ⟨⟨⟨⟨⟨⟨hgeneration, hepoch⟩, hphase⟩, hlevel⟩, hloading⟩, herror⟩, hcursor⟩ := same
  rw [ofEngine, ofEngine, h.store_eq hgeneration.symm, hgeneration, hepoch, hphase, hlevel,
    hloading, herror, hcursor]

theorem Snapshot.sameAs_comm (s t : Snapshot) : s.sameAs t = t.sameAs s := by
  simp only [sameAs, Bool.beq_comm]

end LogTail

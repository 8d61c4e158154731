import Mathlib.Data.List.Basic
import LogTail.Proofs.Store

/-!
The counts of the buffer. They are kept up record by record, with every push and every eviction, and
are at all times those of the records that are in the buffer.
-/
namespace LogTail

theorem LevelCounts.get_increment (c : LevelCounts) (l k : Level) :
    (c.increment l).get k = c.get k + if l = k then 1 else 0 := by
  cases l <;> cases k <;> rfl

theorem LevelCounts.get_decrement (c : LevelCounts) (l k : Level) :
    (c.decrement l).get k = c.get k - if l = k then 1 else 0 := by
  cases l <;> cases k <;> rfl

namespace Store

def Counted (s : Store) : Prop :=
  ∀ l, s.counts.get l = s.entries.countP (·.record.level = l)

theorem counted_of_empty {s : Store} (hentries : s.entries = []) (hcounts : s.counts = .zero) :
    s.Counted := by
  intro l
  rw [hentries, hcounts, List.countP_nil]
  cases l <;> rfl

/-- A record that comes in is counted. -/
theorem push_counted {s : Store} (h : s.Counted) (r : Record) : (s.push r).Counted := by
  intro l
  have hcounts : (s.push r).counts.get l = s.counts.get l + if r.level = l then 1 else 0 :=
    s.counts.get_increment r.level l
  rw [hcounts, h l]
  change _ = (s.entries ++ [(⟨s.nextSeq, r⟩ : Stored)]).countP (·.record.level = l)
  rw [List.countP_append, List.countP_singleton]
  simp only [decide_eq_true_eq]

/-- A record that goes out is no longer counted. -/
theorem evict_counted {s : Store} (h : s.Counted) : s.evict.Counted := by
  intro l
  unfold evict
  split
  case h_1 => exact h l
  case h_2 oldest rest hentries =>
    -- the record that goes was counted, so that the count is not cut off at zero
    have hl := h l
    rw [hentries, List.countP_cons] at hl
    simp only [decide_eq_true_eq] at hl
    rw [LevelCounts.get_decrement, hl]
    exact Nat.add_sub_cancel _ _

theorem insert_counted {s : Store} (h : s.Counted) (r : Record) : (s.insert r).1.Counted := by
  rw [insert_eq]
  split
  · exact evict_counted (push_counted h r)
  · exact push_counted h r

/-- The counts stay right through a batch, by induction on its records. -/
theorem append_counted {s : Store} (h : s.Counted) (rs : List Record) :
    (s.append rs).1.Counted := by
  induction rs generalizing s with
  | nil => exact h
  | cons r rest ih => exact ih (insert_counted h r)

theorem foldl_push_counted {s : Store} (h : s.Counted) (rs : List Record) :
    (rs.foldl push s).Counted := by
  induction rs generalizing s with
  | nil => exact h
  | cons r rest ih => exact ih (push_counted h r)

theorem empty_counted (capacity : ℕ) : (empty capacity).Counted :=
  counted_of_empty rfl rfl

theorem clear_counted (s : Store) : s.clear.Counted :=
  counted_of_empty rfl rfl

theorem replace_counted (s : Store) (rs : List Record) : (s.replace rs).Counted :=
  foldl_push_counted s.clear_counted _

end Store

end LogTail

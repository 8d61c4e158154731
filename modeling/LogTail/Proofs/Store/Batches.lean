import LogTail.Proofs.Store.History

/-!
Batches do not show in the buffer. Records that come in several batches leave the buffer that they leave
when they come in one, and as many have to go for them. A full load leaves the records and counts that
adding its records to a cleared buffer leaves; but there the records that find no room get numbers too, so
those that stay have greater ones.
-/
namespace LogTail

theorem LevelCounts.eq_of_get {c d : LevelCounts} (h : ∀ l, c.get l = d.get l) : c = d := by
  cases c
  cases d
  rw [LevelCounts.mk.injEq]
  exact ⟨h .debug, h .info, h .warn, h .error, h .fatal⟩

def Stored.later (k : ℕ) (x : Stored) : Stored :=
  { x with seq := x.seq + k }

namespace Store

/-- Adding two batches is adding both at once, and the evictions sum up. -/
theorem append_append (s : Store) (xs ys : List Record) :
    s.append (xs ++ ys) =
      (((s.append xs).1.append ys).1, (s.append xs).2 + ((s.append xs).1.append ys).2) := by
  induction xs generalizing s with
  | nil => exact Prod.ext rfl (Nat.zero_add _).symm
  | cons x rest ih =>
    have hrest := ih (s.insert x).1
    have hstep (rs : List Record) : s.append (x :: rs) =
        (((s.insert x).1.append rs).1, (s.insert x).2 + ((s.insert x).1.append rs).2) := rfl
    rw [List.cons_append, hstep, hstep, hrest, Nat.add_assoc]

/-- Any number of batches come to the one that they make up. -/
theorem after_appends (s : Store) (batches : List (List Record)) :
    s.after (batches.map .append) = (s.append batches.flatten).1 := by
  induction batches generalizing s with
  | nil => rfl
  | cons batch rest ih =>
    rw [List.flatten_cons, append_append]
    exact ih (s.append batch).1

/-- The counts follow from the records. -/
theorem Counted.counts_eq {s t : Store} (hs : s.Counted) (ht : t.Counted)
    (h : s.records = t.records) : s.counts = t.counts := by
  refine LevelCounts.eq_of_get fun l => ?_
  have hrecords (u : Store) : u.entries.countP (·.record.level = l) =
      u.records.countP (·.level = l) := by
    rw [records, List.countP_map]
    rfl
  rw [hs l, ht l, hrecords, hrecords, h]

theorem drop_numbered (n k : ℕ) (rs : List Record) :
    (numbered n rs).drop k = numbered (n + k) (rs.drop k) := by
  induction k generalizing n rs with
  | zero => rfl
  | succ k ih =>
    cases rs with
    | nil => rfl
    | cons r rest =>
      rw [numbered, List.drop_succ_cons, List.drop_succ_cons, ih, Nat.succ_add_eq_add_succ]

/-- Shifting the numbers is numbering from farther on. -/
theorem map_later_numbered (n k : ℕ) (rs : List Record) :
    (numbered n rs).map (Stored.later k) = numbered (n + k) rs := by
  induction rs generalizing n with
  | nil => rfl
  | cons r rest ih => rw [numbered, List.map_cons, ih, numbered, Stored.later, Nat.add_right_comm]

/-- A cleared buffer keeps the newest of a batch, which get their numbers behind the others. -/
theorem clear_append_entries (s : Store) (rs : List Record) :
    (s.clear.append rs).1.entries =
      (s.replace rs).entries.map (Stored.later (rs.length - s.capacity)) := by
  have hnewest : (s.clear.append rs).1.entries = (numbered s.nextSeq rs).rtake s.capacity :=
    append_entries s.clear rs s.clear_fits
  rw [hnewest, replace_entries, map_later_numbered, List.rtake, List.rtake, length_numbered,
    drop_numbered]

/-- Greater numbers are the same ones only if they are greater by nothing, or where there are none. -/
theorem map_later_eq_self_iff (k : ℕ) (xs : List Stored) :
    xs.map (Stored.later k) = xs ↔ k = 0 ∨ xs = [] := by
  cases xs with
  | nil => exact iff_of_true rfl (.inr rfl)
  | cons x rest =>
    rw [or_iff_left (List.cons_ne_nil x rest)]
    constructor
    · intro h
      have hseq : x.seq + k = x.seq := congrArg Stored.seq (List.cons.inj h).1
      omega
    · rintro rfl
      exact List.map_id _

/-- A replacement leaves nothing only if there is no room or nothing to hold. -/
theorem replace_entries_eq_nil_iff (s : Store) (rs : List Record) :
    (s.replace rs).entries = [] ↔ s.capacity = 0 ∨ rs = [] := by
  have hlen := congrArg List.length (s.replace_records rs)
  rw [records, List.length_map, List.rtake, List.length_drop] at hlen
  rw [← List.length_eq_zero_iff, ← List.length_eq_zero_iff, hlen]
  omega

/-- Records in one batch leave the buffer that they leave in two, or in any number of batches, and drop as
many others. A full load leaves the records and counts of a cleared buffer that the same records are added
to. In the latter the numbers are greater by as many as found no room, so the two are the same if and only
if all found room or none does. -/
theorem batches_do_not_show (s : Store) :
    (∀ xs ys, (s.append (xs ++ ys)).1 = ((s.append xs).1.append ys).1 ∧
      (s.append (xs ++ ys)).2 = (s.append xs).2 + ((s.append xs).1.append ys).2) ∧
    (∀ batches : List (List Record), s.after (batches.map .append) = (s.append batches.flatten).1) ∧
    ∀ xs, (s.replace xs).records = (s.clear.append xs).1.records ∧
      (s.replace xs).counts = (s.clear.append xs).1.counts ∧
      (s.clear.append xs).1.entries =
        (s.replace xs).entries.map (Stored.later (xs.length - s.capacity)) ∧
      ((s.clear.append xs).1.entries = (s.replace xs).entries ↔
        xs.length ≤ s.capacity ∨ s.capacity = 0) := by
  refine ⟨fun xs ys => Prod.ext_iff.mp (s.append_append xs ys), s.after_appends, fun xs => ?_⟩
  have hrecords : (s.replace xs).records = (s.clear.append xs).1.records :=
    (s.replace_records xs).trans (s.clear.append_records xs s.clear_fits).symm
  have hcounts := (s.replace_counted xs).counts_eq (append_counted s.clear_counted xs) hrecords
  refine ⟨hrecords, hcounts, s.clear_append_entries xs, ?_⟩
  rw [clear_append_entries, map_later_eq_self_iff, replace_entries_eq_nil_iff,
    ← List.length_eq_zero_iff]
  omega

end Store

end LogTail

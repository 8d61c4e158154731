import Mathlib.Data.List.DropRight
import LogTail.Store

/-!
What the buffer holds, as the tail end of a list. Adding records one by one, with an eviction
after each, leaves the newest of the old and the new records together; a full load leaves the
newest of its own.
-/
namespace LogTail

/-- The last entries of a list with more behind it need no more of the list than its last ones. -/
theorem rtake_append_rtake {α : Type*} (n : ℕ) (xs ys : List α) :
    (xs.rtake n ++ ys).rtake n = (xs ++ ys).rtake n := by
  have hk : xs.length - n ≤ xs.length := Nat.sub_le _ _
  have hcut : xs.rtake n ++ ys = (xs ++ ys).drop (xs.length - n) := by
    rw [List.rtake, List.drop_append_of_le_length hk]
  rw [hcut, List.rtake, List.rtake, List.drop_drop]
  congr 1
  simp only [List.length_drop, List.length_append]
  omega

theorem rtake_of_length_le {α : Type*} {n : ℕ} {xs : List α} (h : xs.length ≤ n) :
    xs.rtake n = xs := by
  rw [List.rtake, Nat.sub_eq_zero_of_le h, List.drop_zero]

theorem map_rtake {α β : Type*} (f : α → β) (n : ℕ) (xs : List α) :
    (xs.rtake n).map f = (xs.map f).rtake n := by
  rw [List.rtake, List.rtake, List.map_drop, List.length_map]

namespace Store

def records (s : Store) : List Record :=
  s.entries.map (·.record)

def numbered (n : ℕ) : List Record → List Stored
  | [] => []
  | r :: rest => ⟨n, r⟩ :: numbered (n + 1) rest

@[simp] theorem map_record_numbered (n : ℕ) (rs : List Record) :
    (numbered n rs).map (·.record) = rs := by
  induction rs generalizing n with
  | nil => rfl
  | cons r rest ih => simp only [numbered, List.map_cons, ih]

def Fits (s : Store) : Prop :=
  s.entries.length ≤ s.capacity

theorem empty_fits (capacity : ℕ) : (empty capacity).Fits :=
  Nat.zero_le _

theorem clear_fits (s : Store) : s.clear.Fits :=
  Nat.zero_le _

@[simp] theorem evict_entries (s : Store) : s.evict.entries = s.entries.tail := by
  unfold evict
  split <;> simp_all

@[simp] theorem evict_capacity (s : Store) : s.evict.capacity = s.capacity := by
  unfold evict
  split <;> rfl

@[simp] theorem evict_nextSeq (s : Store) : s.evict.nextSeq = s.nextSeq := by
  unfold evict
  split <;> rfl

/-- A record beyond the capacity pushes out the oldest one. -/
theorem insert_eq (s : Store) (r : Record) :
    s.insert r = if s.capacity < s.entries.length + 1 then ((s.push r).evict, 1)
      else (s.push r, 0) := by
  have hlen : (s.push r).size = s.entries.length + 1 := List.length_append
  rw [← hlen]
  rfl

/-- One record more, and the oldest gone if there is no room for it. -/
theorem insert_entries (s : Store) (r : Record) (h : s.Fits) :
    (s.insert r).1.entries = (s.entries ++ [(⟨s.nextSeq, r⟩ : Stored)]).rtake s.capacity := by
  have hlen : (s.entries ++ [(⟨s.nextSeq, r⟩ : Stored)]).length = s.entries.length + 1 :=
    List.length_append
  unfold Fits at h
  rw [insert_eq]
  split
  · have hcut : s.entries.length + 1 - s.capacity = 1 := by omega
    rw [evict_entries, List.rtake, hlen, hcut, List.drop_one]
    rfl
  · rw [rtake_of_length_le (by omega)]
    rfl

@[simp] theorem insert_capacity (s : Store) (r : Record) :
    (s.insert r).1.capacity = s.capacity := by
  rw [insert_eq]
  split
  · exact evict_capacity _
  · rfl

@[simp] theorem insert_nextSeq (s : Store) (r : Record) :
    (s.insert r).1.nextSeq = s.nextSeq + 1 := by
  rw [insert_eq]
  split
  · exact evict_nextSeq _
  · rfl

theorem insert_fits (s : Store) (r : Record) (h : s.Fits) : (s.insert r).1.Fits := by
  unfold Fits
  rw [insert_entries s r h, insert_capacity, List.rtake, List.length_drop]
  omega

/-- Adding records leaves the newest of the old and the new ones. -/
theorem append_entries (s : Store) (rs : List Record) (h : s.Fits) :
    (s.append rs).1.entries = (s.entries ++ numbered s.nextSeq rs).rtake s.capacity := by
  induction rs generalizing s with
  | nil =>
    rw [append, numbered, List.append_nil, rtake_of_length_le h]
  | cons r rest ih =>
    have hrest := ih (s.insert r).1 (insert_fits s r h)
    rw [insert_entries s r h, insert_capacity, insert_nextSeq, rtake_append_rtake,
      List.append_assoc, List.singleton_append] at hrest
    exact hrest

@[simp] theorem append_capacity (s : Store) (rs : List Record) :
    (s.append rs).1.capacity = s.capacity := by
  induction rs generalizing s with
  | nil => rfl
  | cons r rest ih => exact (ih (s.insert r).1).trans (insert_capacity s r)

theorem append_fits (s : Store) (rs : List Record) (h : s.Fits) : (s.append rs).1.Fits := by
  unfold Fits
  rw [append_entries s rs h, append_capacity, List.rtake, List.length_drop]
  omega

theorem append_records (s : Store) (rs : List Record) (h : s.Fits) :
    (s.append rs).1.records = (s.records ++ rs).rtake s.capacity := by
  rw [records, append_entries s rs h, map_rtake, List.map_append, map_record_numbered, records]

theorem insert_length (s : Store) (r : Record) (h : s.Fits) :
    (s.insert r).1.entries.length = min (s.entries.length + 1) s.capacity := by
  rw [insert_entries s r h, List.rtake, List.length_drop, List.length_append,
    List.length_singleton]
  omega

/-- One record more than fits is evicted, and none otherwise. -/
theorem insert_evicted (s : Store) (r : Record) (h : s.Fits) :
    (s.insert r).2 = s.entries.length + 1 - s.capacity := by
  unfold Fits at h
  rw [insert_eq]
  split
  · simp only
    omega
  · simp only
    omega

/-- As many records are evicted as there is no room for. -/
theorem append_evicted (s : Store) (rs : List Record) (h : s.Fits) :
    (s.append rs).2 = s.entries.length + rs.length - s.capacity := by
  induction rs generalizing s with
  | nil =>
    unfold Fits at h
    rw [append, List.length_nil]
    omega
  | cons r rest ih =>
    have hrest := ih (s.insert r).1 (insert_fits s r h)
    rw [insert_length s r h, insert_capacity] at hrest
    have hsum : (s.append (r :: rest)).2 = (s.insert r).2 + ((s.insert r).1.append rest).2 := rfl
    rw [hsum, insert_evicted s r h, hrest, List.length_cons]
    unfold Fits at h
    omega

/-- Pushing record after record only adds to the entries. -/
theorem foldl_push_entries (s : Store) (rs : List Record) :
    (rs.foldl push s).entries = s.entries ++ numbered s.nextSeq rs := by
  induction rs generalizing s with
  | nil => simp only [List.foldl_nil, numbered, List.append_nil]
  | cons r rest ih =>
    rw [List.foldl_cons, ih (s.push r)]
    simp only [push, numbered, List.append_assoc, List.singleton_append]

theorem foldl_push_capacity (s : Store) (rs : List Record) :
    (rs.foldl push s).capacity = s.capacity := by
  induction rs generalizing s with
  | nil => rfl
  | cons r rest ih => exact ih (s.push r)

/-- A full load leaves the newest of its records. -/
theorem replace_entries (s : Store) (rs : List Record) :
    (s.replace rs).entries = numbered s.nextSeq (rs.rtake s.capacity) := by
  rw [replace, foldl_push_entries]
  rfl

@[simp] theorem replace_capacity (s : Store) (rs : List Record) :
    (s.replace rs).capacity = s.capacity :=
  foldl_push_capacity _ _

theorem replace_records (s : Store) (rs : List Record) :
    (s.replace rs).records = rs.rtake s.capacity := by
  rw [records, replace_entries, map_record_numbered]

/-- After a replacement the buffer fits, whatever it held. -/
theorem replace_fits (s : Store) (rs : List Record) : (s.replace rs).Fits := by
  have hlen := congrArg List.length (replace_records s rs)
  rw [records, List.length_map, List.rtake, List.length_drop] at hlen
  unfold Fits
  rw [hlen, replace_capacity]
  omega

end Store

end LogTail

import Mathlib.Data.List.Range
import LogTail.Proofs.Store.History

/-!
Numbers as the names of records. An operation is made up of edits, each of which puts one record into
the buffer or takes something out of it, and a record gets its number when it is put in, even if it has
to go at once. Over a run the numbers given are 0, 1, 2 and so on, so a number names one record in
every snapshot that has it, and a record put in by a later operation has a greater number.
-/
namespace LogTail.Store

inductive Edit
  | push (r : Record)
  | evict
  | clear

def edit (s : Store) : Edit → Store
  | .push r => s.push r
  | .evict => s.evict
  | .clear => s.clear

def insertEdits (s : Store) (r : Record) : List Edit :=
  if s.capacity < s.entries.length + 1 then [.push r, .evict] else [.push r]

def appendEdits (s : Store) : List Record → List Edit
  | [] => []
  | r :: rest => s.insertEdits r ++ (s.insert r).1.appendEdits rest

def edits (s : Store) : Op → List Edit
  | .append rs => s.appendEdits rs
  | .replace rs => .clear :: (rs.rtake s.capacity).map .push
  | .clear => [.clear]

theorem foldl_insertEdits (s : Store) (r : Record) :
    (s.insertEdits r).foldl edit s = (s.insert r).1 := by
  rw [insertEdits, insert_eq]
  split <;> rfl

/-- The edits of a batch come to the batch. -/
theorem foldl_appendEdits (s : Store) (rs : List Record) :
    (s.appendEdits rs).foldl edit s = (s.append rs).1 := by
  induction rs generalizing s with
  | nil => rfl
  | cons r rest ih =>
    have hfirst := s.foldl_insertEdits r
    rw [appendEdits, List.foldl_append, hfirst, ih]
    rfl

/-- An operation does what its edits do. -/
theorem foldl_edits (s : Store) (op : Op) : (s.edits op).foldl edit s = s.apply op := by
  cases op with
  | append rs => exact s.foldl_appendEdits rs
  | replace rs =>
    have hpush : ((rs.rtake s.capacity).map Edit.push).foldl edit s.clear =
        (rs.rtake s.capacity).foldl push s.clear := by
      rw [List.foldl_map]
      rfl
    exact hpush
  | clear => rfl

/-- The entries that edits put into a buffer, the first first, whether they stay or not: after each
edit, what stands behind all that stood there before. -/
def entered (s : Store) : List Edit → List Stored
  | [] => []
  | e :: rest => (s.edit e).entries.drop s.entries.length ++ entered (s.edit e) rest

@[simp] theorem entered_nil (s : Store) : s.entered [] = [] :=
  rfl

@[simp] theorem entered_push (s : Store) (r : Record) (es : List Edit) :
    s.entered (.push r :: es) = ⟨s.nextSeq, r⟩ :: (s.push r).entered es := by
  have hnew : (s.push r).entries.drop s.entries.length = [⟨s.nextSeq, r⟩] := List.drop_left
  rw [entered, edit, hnew, List.singleton_append]

@[simp] theorem entered_evict (s : Store) (es : List Edit) :
    s.entered (.evict :: es) = s.evict.entered es := by
  have hnone : s.evict.entries.drop s.entries.length = [] := by
    rw [evict_entries, List.drop_eq_nil_iff, List.length_tail]
    exact Nat.sub_le _ _
  rw [entered, edit, hnone, List.nil_append]

@[simp] theorem entered_clear (s : Store) (es : List Edit) :
    s.entered (.clear :: es) = s.clear.entered es := by
  have hnone : s.clear.entries.drop s.entries.length = [] := List.drop_nil
  rw [entered, edit, hnone, List.nil_append]

/-- What enters in a second run of edits is counted from the buffer that the first one leaves. -/
theorem entered_append (s : Store) (es fs : List Edit) :
    s.entered (es ++ fs) = s.entered es ++ (es.foldl edit s).entered fs := by
  induction es generalizing s with
  | nil => simp
  | cons e rest ih =>
    rw [List.cons_append, entered, ih, entered, List.append_assoc, List.foldl_cons]

theorem entered_insertEdits (s : Store) (r : Record) :
    s.entered (s.insertEdits r) = [⟨s.nextSeq, r⟩] := by
  unfold insertEdits
  split <;> simp

/-- The records of a batch enter under the numbers that follow. -/
theorem entered_appendEdits (s : Store) (rs : List Record) :
    s.entered (s.appendEdits rs) = numbered s.nextSeq rs := by
  induction rs generalizing s with
  | nil => rfl
  | cons r rest ih =>
    -- the records after the first are numbered from where it has left off
    have hrest := ih (s.insert r).1
    rw [insert_nextSeq] at hrest
    rw [appendEdits, entered_append, foldl_insertEdits, entered_insertEdits, hrest, numbered,
      List.singleton_append]

theorem entered_pushes (s : Store) (rs : List Record) :
    s.entered (rs.map .push) = numbered s.nextSeq rs := by
  induction rs generalizing s with
  | nil => rfl
  | cons r rest ih =>
    have hnext : (s.push r).nextSeq = s.nextSeq + 1 := rfl
    rw [List.map_cons, entered_push, ih, hnext, numbered]

/-- An operation numbers the records that it takes in one after another. -/
theorem entered_edits (s : Store) (op : Op) :
    s.entered (s.edits op) = numbered s.nextSeq (op.taken s.capacity) := by
  cases op with
  | append rs => exact s.entered_appendEdits rs
  | replace rs =>
    rw [edits, entered_clear]
    exact s.clear.entered_pushes _
  | clear => exact s.entered_clear []

def batches (s : Store) : List Op → List (List Stored)
  | [] => []
  | op :: rest => s.entered (s.edits op) :: batches (s.apply op) rest

theorem batches_append (s : Store) (ops more : List Op) :
    s.batches (ops ++ more) = s.batches ops ++ (s.after ops).batches more := by
  induction ops generalizing s with
  | nil => rfl
  | cons op rest ih =>
    rw [List.cons_append, batches, batches, List.cons_append, ih (s.apply op)]
    rfl

/-- The batches of a run, one after another, are the records taken in, numbered on from the start.
-/
theorem Sound.flatten_batches {s : Store} (h : s.Sound) (ops : List Op) :
    ∃ taken, (s.batches ops).flatten = numbered s.nextSeq taken ∧ s.Extends taken (s.after ops) := by
  induction ops generalizing s with
  | nil => exact ⟨[], rfl, .refl s⟩
  | cons op rest ih =>
    obtain ⟨taken, hrest, hextends⟩ := ih (h.apply op)
    have hstep := extends_apply h.fits op
    have hall : (s.batches (op :: rest)).flatten =
        numbered s.nextSeq (op.taken s.capacity ++ taken) := by
      rw [batches, List.flatten_cons, entered_edits, hrest, hstep.nextSeq_eq, ← numbered_append]
    exact ⟨_, hall, hstep.trans hextends⟩

def inserted (capacity : ℕ) (ops : List Op) : List Stored :=
  ((empty capacity).batches ops).flatten

variable {capacity : ℕ} {ops before : List Op}

theorem inserted_subset (h : before <+: ops) : inserted capacity before ⊆ inserted capacity ops := by
  obtain ⟨more, rfl⟩ := h
  unfold inserted
  rw [batches_append, List.flatten_append]
  exact List.subset_append_left _ _

/-- The numbers are given in turn, and each of them once. -/
theorem map_seq_inserted (capacity : ℕ) (ops : List Op) :
    (inserted capacity ops).map (·.seq) = List.range (inserted capacity ops).length := by
  obtain ⟨taken, hbatches, -⟩ := (empty_sound capacity).flatten_batches ops
  have hinserted : inserted capacity ops = numbered 0 taken := hbatches
  rw [hinserted, map_seq_numbered, length_numbered, List.range_eq_range']

/-- No number is given twice, and later records get later numbers. -/
theorem inserted_ascending (capacity : ℕ) (ops : List Op) :
    (inserted capacity ops).Pairwise (·.seq < ·.seq) := by
  apply List.pairwise_map.mp
  rw [map_seq_inserted]
  exact List.pairwise_lt_range

/-- What a buffer holds was put into it. -/
theorem entries_suffix_inserted (capacity : ℕ) (ops : List Op) :
    ((empty capacity).after ops).entries <:+ inserted capacity ops := by
  obtain ⟨taken, hbatches, hextends⟩ := (empty_sound capacity).flatten_batches ops
  have hinserted : inserted capacity ops = numbered 0 taken := hbatches
  rw [hinserted]
  exact hextends.entries_suffix

/-- Numbers name records for the life of a buffer. Each operation is made up of edits, and a push gives
the next number to its record. Any two snapshots that have a number have the same record under it, one
that was put in; no number is given twice; and an operation gives greater numbers than every operation
before it. -/
theorem numbers_name_records (capacity : ℕ) (ops : List Op) :
    (∀ (s : Store) (op : Op), (s.edits op).foldl edit s = s.apply op) ∧
    (∀ before before', before <+: ops → before' <+: ops →
      ∀ x ∈ ((empty capacity).after before).entries,
        ∀ y ∈ ((empty capacity).after before').entries,
          y.seq = x.seq → y = x ∧ x ∈ inserted capacity ops) ∧
    ((inserted capacity ops).map (·.seq)).Nodup ∧
    ((empty capacity).batches ops).Pairwise fun earlier later =>
      ∀ x ∈ earlier, ∀ y ∈ later, x.seq < y.seq := by
  have hnodup : ((inserted capacity ops).map (·.seq)).Nodup := by
    rw [map_seq_inserted]
    exact List.nodup_range
  have hheld {before : List Op} (hbefore : before <+: ops) {x : Stored}
      (hx : x ∈ ((empty capacity).after before).entries) : x ∈ inserted capacity ops := by
    have hinserted := (entries_suffix_inserted capacity before).subset hx
    exact inserted_subset hbefore hinserted
  refine ⟨foldl_edits, ?_, hnodup, ?_⟩
  · intro before before' hbefore hbefore' x hx y hy heq
    have hmem : x ∈ inserted capacity ops := hheld hbefore hx
    have hmem' : y ∈ inserted capacity ops := hheld hbefore' hy
    exact ⟨List.inj_on_of_nodup_map hnodup hmem' hmem heq, hmem⟩
  · exact (List.pairwise_flatten.mp (inserted_ascending capacity ops)).2

/-- A buffer for two records, which is filled, added to and filled again. -/
def refill : List Op :=
  let line (message : String) : Record := { timestamp := "t", level := .info, message := message }
  [.append [line "a", line "b", line "c"], .append [line "d"], .replace [line "e", line "f", line "g"]]

/-- The first record goes as soon as it is put in and has a number all the same. The third one is there
before and after the fourth has come, under one number. -/
theorem numbers_name_records_refilled :
    ((empty 2).batches refill).map (·.map (·.seq)) = [[0, 1, 2], [3], [4, 5]] ∧
    ((empty 2).after (refill.take 1)).entries.map (·.seq) = [1, 2] ∧
    ((empty 2).after (refill.take 2)).entries.map (·.seq) = [2, 3] ∧
    ∀ x ∈ ((empty 2).after (refill.take 1)).entries,
      ∀ y ∈ ((empty 2).after (refill.take 2)).entries, y.seq = x.seq → y.record = x.record := by
  refine ⟨by decide, by decide, by decide, ?_⟩
  intro x hx y hy heq
  obtain ⟨-, hsnapshots, -, -⟩ := numbers_name_records 2 refill
  have hbefore : refill.take 1 <+: refill := List.take_prefix 1 refill
  have hbefore' : refill.take 2 <+: refill := List.take_prefix 2 refill
  obtain ⟨hsame, -⟩ := hsnapshots _ _ hbefore hbefore' x hx y hy heq
  rw [hsame]

end LogTail.Store

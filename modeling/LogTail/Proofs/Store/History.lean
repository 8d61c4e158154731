import Mathlib.Data.List.Infix
import Mathlib.Data.List.Nodup
import LogTail.Proofs.Store.Counts

/-!
The buffer as the end of its own history. A record gets the number of records stored before it, and
nothing but the oldest records ever leaves; so whatever is done to a buffer, it holds the last of all
records it has taken in, each at the place that its number says. From this come the order of the
numbers, and what is left at a later moment of the records held at an earlier one.
-/
namespace LogTail.Store

theorem length_numbered (n : ℕ) (rs : List Record) : (numbered n rs).length = rs.length := by
  rw [← List.length_map (·.record), map_record_numbered]

/-- Records are numbered on from where the first part ends. -/
theorem numbered_append (n : ℕ) (rs ss : List Record) :
    numbered n (rs ++ ss) = numbered n rs ++ numbered (n + rs.length) ss := by
  induction rs generalizing n with
  | nil => rfl
  | cons r rest ih =>
    have hlen : n + (r :: rest).length = n + 1 + rest.length := by
      rw [List.length_cons]
      omega
    rw [List.cons_append, numbered, ih, hlen, numbered, List.cons_append]

theorem map_seq_numbered (n : ℕ) (rs : List Record) :
    (numbered n rs).map (·.seq) = List.range' n rs.length := by
  induction rs generalizing n with
  | nil => rfl
  | cons r rest ih => rw [numbered, List.map_cons, ih, List.length_cons, List.range'_succ]

/-- A record stands at the place that its number says. -/
theorem getElem?_of_mem_numbered {n : ℕ} {rs : List Record} {x : Stored}
    (hx : x ∈ numbered n rs) : n ≤ x.seq ∧ rs[x.seq - n]? = some x.record := by
  induction rs generalizing n with
  | nil => cases hx
  | cons r rest ih =>
    rcases List.mem_cons.mp hx with rfl | hx
    · refine ⟨le_refl n, ?_⟩
      rw [Nat.sub_self]
      rfl
    · obtain ⟨hle, hget⟩ := ih hx
      have hplace : x.seq - n = x.seq - (n + 1) + 1 := by omega
      refine ⟨by omega, ?_⟩
      rw [hplace, List.getElem?_cons_succ]
      exact hget

inductive Op
  | append (records : List Record)
  | replace (records : List Record)
  | clear

def Op.taken (capacity : ℕ) : Op → List Record
  | .append rs => rs
  | .replace rs => rs.rtake capacity
  | .clear => []

def apply (s : Store) : Op → Store
  | .append rs => (s.append rs).1
  | .replace rs => s.replace rs
  | .clear => s.clear

def after (s : Store) (ops : List Op) : Store :=
  ops.foldl apply s

/-- Whether one buffer may have become the other by taking in some records, and no others: what it
holds then is the last of what it held and of those. -/
structure Extends (s : Store) (taken : List Record) (later : Store) : Prop where
  capacity_eq : later.capacity = s.capacity
  nextSeq_eq : later.nextSeq = s.nextSeq + taken.length
  entries_suffix : later.entries <:+ s.entries ++ numbered s.nextSeq taken

theorem Extends.refl (s : Store) : s.Extends [] s := by
  refine ⟨rfl, rfl, ?_⟩
  rw [numbered, List.append_nil]

/-- What is taken in after something else is taken in with it. -/
theorem Extends.trans {s m later : Store} {rs ss : List Record} (h : s.Extends rs m)
    (h' : m.Extends ss later) : s.Extends (rs ++ ss) later := by
  refine ⟨h'.capacity_eq.trans h.capacity_eq, ?_, ?_⟩
  · rw [h'.nextSeq_eq, h.nextSeq_eq, List.length_append, Nat.add_assoc]
  · have hlonger : m.entries ++ numbered m.nextSeq ss <:+
        s.entries ++ numbered s.nextSeq rs ++ numbered m.nextSeq ss :=
      List.suffix_append_self_iff.mpr h.entries_suffix
    have hall : s.entries ++ numbered s.nextSeq rs ++ numbered m.nextSeq ss =
        s.entries ++ numbered s.nextSeq (rs ++ ss) := by
      rw [numbered_append, h.nextSeq_eq, List.append_assoc]
    rw [← hall]
    exact h'.entries_suffix.trans hlonger

/-- What has a number given before was there before. -/
theorem Extends.mem_of_seq_lt {s later : Store} {taken : List Record} (h : s.Extends taken later)
    {x : Stored} (hx : x ∈ later.entries) (hlt : x.seq < s.nextSeq) : x ∈ s.entries := by
  rcases List.mem_append.mp (h.entries_suffix.subset hx) with hx | hx
  · exact hx
  · have hle := (getElem?_of_mem_numbered hx).1
    omega

/-- Every record of a batch uses up a number, also one that does not stay. -/
theorem append_nextSeq (s : Store) (rs : List Record) :
    (s.append rs).1.nextSeq = s.nextSeq + rs.length := by
  induction rs generalizing s with
  | nil => rfl
  | cons r rest ih =>
    have hrest := ih (s.insert r).1
    rw [insert_nextSeq] at hrest
    have hstep : (s.append (r :: rest)).1 = ((s.insert r).1.append rest).1 := rfl
    rw [hstep, hrest, List.length_cons]
    omega

theorem foldl_push_nextSeq (s : Store) (rs : List Record) :
    (rs.foldl push s).nextSeq = s.nextSeq + rs.length := by
  induction rs generalizing s with
  | nil => rfl
  | cons r rest ih =>
    have hpush : (s.push r).nextSeq = s.nextSeq + 1 := rfl
    rw [List.foldl_cons, ih (s.push r), hpush, List.length_cons]
    omega

/-- One operation takes in its records and no others. -/
theorem extends_apply {s : Store} (h : s.Fits) (op : Op) :
    s.Extends (op.taken s.capacity) (s.apply op) := by
  cases op with
  | append rs =>
    refine ⟨s.append_capacity rs, s.append_nextSeq rs, ?_⟩
    rw [apply, append_entries s rs h]
    exact List.drop_suffix _ _
  | replace rs =>
    refine ⟨s.replace_capacity rs, s.clear.foldl_push_nextSeq _, ?_⟩
    rw [apply, replace_entries]
    exact List.suffix_append _ _
  | clear => exact ⟨rfl, rfl, List.nil_suffix⟩

/-- Whether a buffer is as a run of operations leaves it: within its capacity, with right counts, and
at the end of a history of records. -/
structure Sound (s : Store) : Prop where
  fits : s.Fits
  counted : s.Counted
  has_history : ∃ history, (empty s.capacity).Extends history s

theorem empty_sound (capacity : ℕ) : (empty capacity).Sound :=
  ⟨empty_fits capacity, empty_counted capacity, [], .refl _⟩

namespace Sound

variable {s : Store}

/-- One operation keeps the buffer sound. -/
theorem apply (h : s.Sound) (op : Op) : (s.apply op).Sound := by
  refine ⟨?_, ?_, ?_⟩
  · cases op with
    | append rs => exact append_fits s rs h.fits
    | replace rs => exact replace_fits s rs
    | clear => exact s.clear_fits
  · cases op with
    | append rs => exact append_counted h.counted rs
    | replace rs => exact replace_counted s rs
    | clear => exact s.clear_counted
  · obtain ⟨history, hhistory⟩ := h.has_history
    have hstep := extends_apply h.fits op
    rw [hstep.capacity_eq]
    exact ⟨_, hhistory.trans hstep⟩

theorem after (h : s.Sound) (ops : List Op) : (s.after ops).Sound := by
  induction ops generalizing s with
  | nil => exact h
  | cons op rest ih => exact ih (h.apply op)

/-- Any later buffer goes on from this one. -/
theorem extends_after (h : s.Sound) (ops : List Op) :
    ∃ taken, s.Extends taken (s.after ops) := by
  induction ops generalizing s with
  | nil => exact ⟨[], .refl s⟩
  | cons op rest ih =>
    obtain ⟨taken, hrest⟩ := ih (h.apply op)
    exact ⟨_, (extends_apply h.fits op).trans hrest⟩

/-- The numbers in the buffer, and the next one to be given, follow on one another. -/
theorem seqs_eq (h : s.Sound) :
    s.entries.map (·.seq) ++ [s.nextSeq] = List.range' (s.nextSeq - s.size) (s.size + 1) := by
  obtain ⟨history, -, hnext, hsuffix⟩ := h.has_history
  have hnext' : s.nextSeq = history.length := by rw [hnext, empty, Nat.zero_add]
  have hentries : s.entries = (numbered 0 history).drop (s.nextSeq - s.size) := by
    have hdrop := List.suffix_iff_eq_drop.mp hsuffix
    rw [empty, List.nil_append, length_numbered, ← hnext'] at hdrop
    exact hdrop
  have hle : s.size ≤ s.nextSeq := by
    have hlen := congrArg List.length hentries
    rw [List.length_drop, length_numbered, ← hnext'] at hlen
    rw [size]
    omega
  have hseqs : s.entries.map (·.seq) = List.range' (s.nextSeq - s.size) s.size := by
    have hlen : history.length - (s.nextSeq - s.size) = s.size := by omega
    rw [hentries, List.map_drop, map_seq_numbered, List.drop_range', hlen, Nat.zero_add,
      Nat.mul_one]
  have hlast : s.nextSeq - s.size + 1 * s.size = s.nextSeq := by omega
  rw [List.range'_concat, hseqs, hlast]

/-- Numbers rise from the oldest record to the newest. -/
theorem ascending (h : s.Sound) : s.entries.Pairwise (·.seq < ·.seq) := by
  have hall : (s.entries.map (·.seq) ++ [s.nextSeq]).Pairwise (· < ·) := by
    rw [h.seqs_eq]
    exact List.pairwise_lt_range'
  exact List.pairwise_map.mp (List.pairwise_append.mp hall).1

/-- Every number in use is below the next one. -/
theorem seq_lt (h : s.Sound) {x : Stored} (hx : x ∈ s.entries) : x.seq < s.nextSeq := by
  have hall : (s.entries.map (·.seq) ++ [s.nextSeq]).Pairwise (· < ·) := by
    rw [h.seqs_eq]
    exact List.pairwise_lt_range'
  obtain ⟨-, -, hlast⟩ := List.pairwise_append.mp hall
  exact hlast _ (List.mem_map_of_mem hx) _ (List.mem_singleton.mpr rfl)

/-- A number belongs to one record only, now and later. -/
theorem eq_of_seq_eq (h : s.Sound) {later : Store} {taken : List Record}
    (hextends : s.Extends taken later) {x y : Stored} (hx : x ∈ s.entries)
    (hy : y ∈ later.entries) (heq : y.seq = x.seq) : y = x := by
  have hnodup : (s.entries.map (·.seq)).Nodup :=
    List.pairwise_map.mpr (h.ascending.imp Nat.ne_of_lt)
  have hbefore : y ∈ s.entries := hextends.mem_of_seq_lt hy (heq ▸ h.seq_lt hx)
  exact List.inj_on_of_nodup_map hnodup hbefore hx heq

end Sound

/-- Every record has one of the five levels. -/
theorem countP_levels (xs : List Stored) :
    xs.countP (·.record.level = .debug) + xs.countP (·.record.level = .info) +
      xs.countP (·.record.level = .warn) + xs.countP (·.record.level = .error) +
      xs.countP (·.record.level = .fatal) = xs.length := by
  induction xs with
  | nil => rfl
  | cons x rest ih =>
    simp only [List.countP_cons, List.length_cons]
    cases x.record.level <;> simp only [reduceCtorEq, decide_true, decide_false, Bool.false_eq_true,
      if_true, if_false] <;> omega

theorem Counted.total_eq {s : Store} (h : s.Counted) : s.counts.total = s.size := by
  have hlevels := countP_levels s.entries
  rw [← h .debug, ← h .info, ← h .warn, ← h .error, ← h .fatal] at hlevels
  exact hlevels

theorem Counted.get_pos {s : Store} (h : s.Counted) {x : Stored} (hx : x ∈ s.entries) :
    0 < s.counts.get x.record.level := by
  rw [h, List.countP_pos_iff]
  exact ⟨x, hx, decide_eq_true rfl⟩

theorem append_size {s : Store} (h : s.Fits) (rs : List Record) :
    (s.append rs).2 + (s.append rs).1.size = s.size + rs.length := by
  have hsize : (s.append rs).1.size = s.size + rs.length - (s.size + rs.length - s.capacity) := by
    rw [size, append_entries s rs h, List.rtake, List.length_drop, List.length_append,
      length_numbered, size]
  rw [append_evicted s rs h, hsize, size]
  omega

/-- What holds of a buffer whatever is done to it. It has no more records than it may. Their numbers
follow on one another, and the next one to be given follows on them. The counts are those of the
records, and add up to their number. A batch drops as many records as are missing after it: while it
is added, with `taken` of it in and `r` behind all others, the oldest record is still counted, so the
count that it is taken off is not zero. -/
theorem buffer_keeps_accounts (capacity : ℕ) (ops : List Op) :
    let s := (empty capacity).after ops
    s.size ≤ capacity ∧
    s.entries.map (·.seq) ++ [s.nextSeq] = List.range' (s.nextSeq - s.size) (s.size + 1) ∧
    (∀ l, s.counts.get l = s.entries.countP (·.record.level = l)) ∧
    s.counts.total = s.size ∧
    (∀ rs, (s.append rs).2 + (s.append rs).1.size = s.size + rs.length) ∧
    ∀ taken r oldest rest, ((s.append taken).1.push r).entries = oldest :: rest →
      0 < ((s.append taken).1.push r).counts.get oldest.record.level := by
  intro s
  have hsound : s.Sound := (empty_sound capacity).after ops
  obtain ⟨-, hcapacity, -, -⟩ := (empty_sound capacity).extends_after ops
  refine ⟨?_, hsound.seqs_eq, hsound.counted, hsound.counted.total_eq,
    append_size hsound.fits, ?_⟩
  · exact hsound.fits.trans hcapacity.le
  · intro taken r oldest rest hentries
    have hfull : ((s.append taken).1.push r).Counted :=
      push_counted (append_counted hsound.counted taken) r
    apply hfull.get_pos
    rw [hentries]
    exact List.mem_cons_self

end LogTail.Store

import LogTail.Proofs.Store
import LogTail.Proofs.Service.GrowingLog
import LogTail.Proofs.Engine.Baseline

/-!
Tailing a log that only grows. The records in the buffer are the last of one stretch of the log,
which starts with the records of the full load that the epoch began with and ends at the cursor;
inside it nothing is missing and nothing comes twice.

The invariant has two parts. One is about the engine: the stretch, and that the log has reached the
cursor, so that the stretch is the same in every later log. The other is about the polls that wait:
the log had reached the cursor when they were issued, so that every log they may be answered from
agrees on the stretch too.
-/
namespace LogTail

open Engine

/-- The pages that a service with this log may answer with: it looks at what the log holds at some
moment between the issue of a ticket and its answer. -/
def GrowingLog.Answers (log : GrowingLog) : Ledger.Supply := fun l i page =>
  ∃ seen, log.held i.moment <+: seen ∧ seen <+: log.held l.now ∧
    match i.ticket.query.since.token with
    | none => FullPage i.ticket.query.level seen page
    | some since => NewPage i.ticket.query.level since seen page

namespace Ledger

/-- Whether the records in the buffer are the last of a stretch of the log that starts with a full
load and ends at a position. -/
structure Stretch (log : List Record) (l : Ledger) (page : Page) (base c : String) : Prop where
  baseline : l.Baseline page
  base_token : page.next.token = some base
  base_le : base ≤ c
  reaches : Reaches log c
  suffix_base : page.records <:+ upTo l.engine.level base log
  records_eq : l.engine.store.records =
    (page.records ++ between l.engine.level base c log).rtake l.engine.store.capacity

/-- What the buffer, the cursor and the polls that wait have to do with the log. -/
structure Tailing (log : GrowingLog) (capacity : ℕ) (l : Ledger) : Prop where
  fits : l.engine.store.Fits
  capacity_eq : l.engine.store.capacity = capacity
  stretch : ∀ c, l.engine.cursor.token = some c →
    ∃ page base, Stretch (log.held l.now) l page base c
  reached : ∀ i ∈ l.waiting, i.ticket.kind = .incremental → i.ticket.epoch = l.engine.epoch →
    ∀ c, l.engine.cursor.token = some c → Reaches (log.held i.moment) c

theorem Stretch.between_eq {older log : List Record} {l : Ledger} {page : Page} {base c : String}
    (h : Stretch older l page base c) (hasc : Ascending log) (hp : older <+: log) :
    between l.engine.level base c log = between l.engine.level base c older :=
  between_eq_of_grown hasc hp h.base_le h.reaches

/-- The stretch stays when the engine keeps its records, its cursor, its level and its epoch. -/
theorem Stretch.note {older log : List Record} {l : Ledger} {page : Page} {base c : String}
    (h : Stretch older l page base c) (hasc : Ascending log) (hp : older <+: log) {a : Act}
    {e : Engine} {tickets : List Ticket} {completion : Option Completion}
    (hstore : e.store = l.engine.store) (hlevel : e.level = l.engine.level)
    (hepoch : e.epoch = l.engine.epoch) :
    Stretch log (l.note a e tickets completion) page base c := by
  refine ⟨h.baseline.note hepoch, h.base_token, h.base_le, h.reaches.of_grown hp, ?_, ?_⟩
  · change page.records <:+ upTo e.level base log
    rw [hlevel, upTo_eq_of_grown hasc hp (h.reaches.of_le h.base_le)]
    exact h.suffix_base
  · change e.store.records = (page.records ++ between e.level base c log).rtake e.store.capacity
    rw [hstore, hlevel, h.between_eq hasc hp]
    exact h.records_eq

namespace Tailing

variable {log : GrowingLog} {capacity : ℕ} {l : Ledger}

/-- Without a cursor the buffer has nothing to do with the log. -/
theorem of_new (log : GrowingLog) (capacity : ℕ) (limit : Option ℕ) :
    Tailing log capacity (new capacity limit) where
  fits := Store.empty_fits capacity
  capacity_eq := rfl
  stretch := fun _ hc => nomatch hc
  reached := fun _ hi => nomatch hi

/-- An act that leaves the records, the cursor, the level and the epoch alone. A ticket issued by it
is issued when the log has reached the cursor. -/
theorem note_kept (h : Tailing log capacity l) {a : Act} {e : Engine} {tickets : List Ticket}
    {completion : Option Completion} (hstore : e.store = l.engine.store)
    (hcursor : e.cursor = l.engine.cursor) (hlevel : e.level = l.engine.level)
    (hepoch : e.epoch = l.engine.epoch) :
    Tailing log capacity (l.note a e tickets completion) := by
  refine ⟨?_, ?_, ?_, ?_⟩
  · change e.store.Fits
    rw [hstore]
    exact h.fits
  · exact (congrArg Store.capacity hstore).trans h.capacity_eq
  · intro c hc
    obtain ⟨page, base, hstretch⟩ := h.stretch c (hcursor ▸ hc)
    exact ⟨page, base, hstretch.note (log.ascending _) (log.grows _ _ (Nat.le_succ _))
      hstore hlevel hepoch⟩
  · intro i hi hkind hcurrent c hc
    have hc' : l.engine.cursor.token = some c := hcursor ▸ hc
    rcases List.mem_append.mp hi with hi | hi
    · exact h.reached i (mem_of_mem_pending hi) hkind (hcurrent.trans hepoch) c hc'
    · -- the ticket is new, and the stretch says how far the log has come
      obtain ⟨t, -, rfl⟩ := List.mem_map.mp hi
      obtain ⟨page, base, hstretch⟩ := h.stretch c hc'
      exact hstretch.reaches

/-- Where the cursor is lost, the stretch is given up with it. -/
theorem note_lost {a : Act} {e : Engine} {tickets : List Ticket}
    {completion : Option Completion} (hfits : e.store.Fits)
    (hcapacity : e.store.capacity = capacity) (hcursor : e.cursor = .absent) :
    Tailing log capacity (l.note a e tickets completion) := by
  have hnone (c : String) : (l.note a e tickets completion).engine.cursor.token ≠ some c := by
    change e.cursor.token ≠ some c
    rw [hcursor]
    exact (Option.some_ne_none c).symm
  refine ⟨hfits, hcapacity, ?_, ?_⟩
  · intro c hc
    exact absurd hc (hnone c)
  · intro i _ _ _ c hc
    exact absurd hc (hnone c)

/-- A full load begins a stretch of its own. -/
theorem note_loaded (h : Tailing log capacity l) {i : Issue} {page : Page} {e : Engine}
    {seen : List Record} (hseen : seen <+: log.held l.now) (hpage : FullPage e.level seen page)
    (hepoch : e.epoch = i.ticket.epoch) (hcursor : e.cursor = page.next)
    (hstore : e.store = l.engine.store.replace page.records)
    (hnone : ∀ j ∈ l.pending (.complete i (.ok page)), j.ticket.epoch ≠ e.epoch) :
    Tailing log capacity
      (l.note (.complete i (.ok page)) e [] (some (.replaced page.records.length))) := by
  refine ⟨?_, ?_, ?_, ?_⟩
  · change e.store.Fits
    rw [hstore]
    exact Store.replace_fits _ _
  · change e.store.capacity = capacity
    rw [hstore, Store.replace_capacity]
    exact h.capacity_eq
  · intro c hc
    have hc' : page.next.token = some c := hcursor ▸ hc
    obtain ⟨hcovers, hreach⟩ := hpage.cursor_within c hc'
    have hlater : seen <+: log.held (l.now + 1) := hseen.trans (log.grows _ _ (Nat.le_succ _))
    refine ⟨page, c, ?_, hc', le_refl c, hreach.of_grown hlater, ?_, ?_⟩
    · refine ⟨⟨l.now, i, .ok page, .replaced page.records.length⟩, ?_, hepoch.symm, rfl, rfl⟩
      exact List.mem_append_right _ (List.mem_singleton.mpr rfl)
    · change page.records <:+ upTo e.level c (log.held (l.now + 1))
      rw [upTo_eq_of_grown (log.ascending _) hlater hreach]
      exact suffix_upTo hpage.records_suffix hcovers
    · change e.store.records = (page.records ++
        between e.level c c (log.held (l.now + 1))).rtake e.store.capacity
      rw [between_self, List.append_nil, hstore, Store.replace_records, Store.replace_capacity]
  · intro j hj _ hcurrent
    exact absurd hcurrent (hnone j (mem_waiting_note_nil.mp hj))

/-- A poll takes the stretch on to a later cursor. The stretch so far is the same in the log that
the service looked at, so what the page brings is the rest of the longer stretch. -/
theorem note_polled (h : Tailing log capacity l) {i : Issue} {page : Page} {e : Engine}
    {completion : Option Completion} {c : String} {seen : List Record}
    (hc : l.engine.cursor.token = some c) (hreached : Reaches (log.held i.moment) c)
    (hissued : log.held i.moment <+: seen) (hseen : seen <+: log.held l.now)
    (hpage : NewPage l.engine.level c seen page) (hlevel : e.level = l.engine.level)
    (hepoch : e.epoch = l.engine.epoch) (hcursor : e.cursor = l.engine.cursor.advance page.next)
    (hfits : e.store.Fits) (hcapacity : e.store.capacity = l.engine.store.capacity)
    (hrecords : e.store.records =
      (l.engine.store.records ++ page.records).rtake l.engine.store.capacity)
    (hnone : ∀ j ∈ l.pending (.complete i (.ok page)), j.ticket.epoch ≠ e.epoch) :
    Tailing log capacity (l.note (.complete i (.ok page)) e [] completion) := by
  obtain ⟨d, hd, hcd, hcovers, hwithin⟩ := hpage.cursor_within
  obtain ⟨first, base, hstretch⟩ := h.stretch c hc
  have hlater : seen <+: log.held (l.now + 1) := hseen.trans (log.grows _ _ (Nat.le_succ _))
  have hasc : Ascending (log.held (l.now + 1)) := log.ascending _
  have hbase : base ≤ c := hstretch.base_le
  -- a cursor that a heartbeat leaves in place was reached when the poll was issued
  have hreach : Reaches seen d := by
    rcases hwithin with hdc | hreach
    · exact (hreached.of_grown hissued).of_le hdc
    · exact hreach
  have hnext : e.cursor.token = some d := by
    rw [hcursor, Cursor.advance_of_le hc hd hcd]
    exact hd
  have hbefore : between l.engine.level base c (log.held l.now) =
      between l.engine.level base c (log.held (l.now + 1)) :=
    (hstretch.between_eq hasc (log.grows _ _ (Nat.le_succ _))).symm
  have hnew : page.records = between l.engine.level c d (log.held (l.now + 1)) := by
    rw [between_eq_of_grown hasc hlater hcd hreach, between_eq_after, hpage.records_eq]
    rw [← hpage.records_eq]
    exact hcovers
  refine ⟨hfits, hcapacity.trans h.capacity_eq, ?_, ?_⟩
  · intro d' hd'
    obtain rfl : d = d' := Option.some.inj (hnext.symm.trans hd')
    refine ⟨first, base, hstretch.baseline.note hepoch, hstretch.base_token, hbase.trans hcd,
      hreach.of_grown hlater, ?_, ?_⟩
    · change first.records <:+ upTo e.level base (log.held (l.now + 1))
      rw [hlevel, upTo_eq_of_grown hasc (log.grows _ _ (Nat.le_succ _))
        (hstretch.reaches.of_le hbase)]
      exact hstretch.suffix_base
    · calc e.store.records
          = (l.engine.store.records ++ page.records).rtake l.engine.store.capacity := hrecords
        _ = (first.records ++ between l.engine.level base c (log.held (l.now + 1)) ++
              page.records).rtake l.engine.store.capacity := by
            rw [hstretch.records_eq, rtake_append_rtake, hbefore]
        _ = (first.records ++ between e.level base d (log.held (l.now + 1))).rtake
              e.store.capacity := by
            rw [hnew, List.append_assoc, between_append_between hasc hbase hcd, hlevel, hcapacity]
  · intro j hj _ hcurrent
    exact absurd hcurrent (hnone j (mem_waiting_note_nil.mp hj))

/-- The answer to a full load is a page of the log as it stood at some moment until now. -/
theorem answered_full (hd : l.Dated) {i : Issue} {page : Page} (hi : i ∈ l.waiting)
    (live : l.engine.Accepts i.ticket) (full : i.ticket.kind = .full)
    (answers : log.Answers l i page) :
    ∃ seen, seen <+: log.held l.now ∧ FullPage l.engine.level seen page := by
  have hissued := hd.waiting_issued i hi
  have hnone : i.ticket.query.since.token = none :=
    Option.isNone_iff_eq_none.mp ((hd.full_iff i hissued).mpr full)
  obtain ⟨seen, -, hseen, hpage⟩ := answers
  rw [hnone, hd.level_eq i hissued live.2] at hpage
  exact ⟨seen, hseen, hpage⟩

/-- The answer to a poll continues from the cursor: the log had come that far when the poll was
issued. -/
theorem answered_poll (h : Tailing log capacity l) (hg : l.Guarded) {i : Issue} {page : Page}
    (hi : i ∈ l.waiting) (live : l.engine.Accepts i.ticket) (poll : i.ticket.kind = .incremental)
    (answers : log.Answers l i page) :
    ∃ c seen, l.engine.cursor.token = some c ∧ Reaches (log.held i.moment) c ∧
      log.held i.moment <+: seen ∧ seen <+: log.held l.now ∧
      NewPage l.engine.level c seen page := by
  obtain ⟨hcursor, hquery⟩ := hg.poll_asks i hi poll live.2
  obtain ⟨c, hc⟩ := Cursor.isAbsent_eq_false_iff.mp hcursor
  obtain ⟨seen, hissued, hseen, hpage⟩ := answers
  have hsince : i.ticket.query.since.token = some c := by
    rw [hquery]
    exact hc
  have hlevel : i.ticket.query.level = l.engine.level := by
    rw [hquery]
    rfl
  rw [hsince, hlevel] at hpage
  exact ⟨c, seen, hc, h.reached i hi poll live.2 c hc, hissued, hseen, hpage⟩

/-- One act keeps the buffer the end of a stretch of the log. -/
theorem record (h : Tailing log capacity l) (hd : l.Dated) (hg : l.Guarded) {a : Act}
    (allowed : l.Allows log.Answers a) : Tailing log capacity (l.record a) := by
  have hturn := l.engine.turn a
  unfold Ledger.record
  generalize l.engine.act a = reaction at hturn ⊢
  cases hturn with
  | wait => exact h.note_kept rfl rfl rfl rfl
  | idle => exact h.note_kept rfl rfl rfl rfl
  | load => exact note_lost h.fits h.capacity_eq rfl
  | poll => exact h.note_kept rfl rfl rfl rfl
  | dropped => exact h.note_kept rfl rfl rfl rfl
  | loaded live full =>
    obtain ⟨hi, answers⟩ := allowed
    obtain ⟨seen, hseen, hpage⟩ := answered_full hd hi live full answers
    exact h.note_loaded hseen hpage live.2.symm rfl rfl
      fun j hj => hg.epoch_ne_of_answered hi live.2 hj
  | loadFailed => exact h.note_kept rfl rfl rfl rfl
  | pollFailed => exact h.note_kept rfl rfl rfl rfl
  -- without a record the stretch grows by nothing, but its end moves to the later position
  | heartbeat live poll no_record =>
    obtain ⟨hi, answers⟩ := allowed
    obtain ⟨c, seen, hc, hreached, hissued, hseen, hpage⟩ := h.answered_poll hg hi live poll answers
    refine h.note_polled hc hreached hissued hseen hpage rfl rfl rfl h.fits rfl ?_
      fun j hj => hg.epoch_ne_of_answered hi live.2 hj
    have hlen : l.engine.store.records.length ≤ l.engine.store.capacity := by
      rw [Store.records, List.length_map]
      exact h.fits
    rw [no_record, List.append_nil, rtake_of_length_le hlen]
  | merged live poll =>
    obtain ⟨hi, answers⟩ := allowed
    obtain ⟨c, seen, hc, hreached, hissued, hseen, hpage⟩ := h.answered_poll hg hi live poll answers
    exact h.note_polled hc hreached hissued hseen hpage rfl rfl rfl
      (Store.append_fits _ _ h.fits) (Store.append_capacity _ _) (Store.append_records _ _ h.fits)
      fun j hj => hg.epoch_ne_of_answered hi live.2 hj
  | clearedLate => exact h.note_kept rfl rfl rfl rfl
  | cleared => exact note_lost (Store.clear_fits _) h.capacity_eq rfl
  | closed => exact h.note_kept rfl rfl rfl rfl

end Tailing

theorem Run.tailing {log : GrowingLog} {capacity : ℕ} {limit : Option ℕ} {l : Ledger}
    (run : Run log.Answers (new capacity limit) l) : Tailing log capacity l := by
  have h := run.keeps (P := fun m => m.Dated ∧ m.Guarded ∧ Tailing log capacity m)
    ⟨.of_new capacity limit, .of_new capacity limit, .of_new log capacity limit⟩
    fun _ a ⟨hd, hg, ht⟩ allowed => ⟨hd.record a, hg.record hd allowed, ht.record hd hg allowed⟩
  exact h.2.2

/-- The stretch is the tail end of what the log holds up to the cursor. -/
theorem Stretch.suffix_upTo {log : List Record} {l : Ledger} {page : Page} {base c : String}
    (h : Stretch log l page base c) (hasc : Ascending log) :
    page.records ++ between l.engine.level base c log <:+ upTo l.engine.level c log := by
  rw [← upTo_append_between hasc h.base_le]
  obtain ⟨older, holder⟩ := h.suffix_base
  refine ⟨older, ?_⟩
  rw [← List.append_assoc, holder]

/-- Nothing is lost and nothing comes twice. Against a log that only grows, the buffer of an engine
with a cursor holds the last records of the stretch that begins with the page of the epoch's full
load and ends at the cursor. That stretch is the tail end of all records of the level up to the
cursor, so the buffer has no gap and rises from record to record. -/
theorem buffer_is_tail_of_log (log : GrowingLog) {capacity : ℕ} {limit : Option ℕ} {l : Ledger}
    (run : Run log.Answers (new capacity limit) l) {c : String}
    (present : l.engine.cursor.token = some c) :
    ∃ page base, l.Baseline page ∧ page.next.token = some base ∧
      page.records ++ between l.engine.level base c (log.held l.now) <:+
        upTo l.engine.level c (log.held l.now) ∧
      l.engine.store.records =
        (page.records ++ between l.engine.level base c (log.held l.now)).rtake capacity ∧
      Ascending l.engine.store.records := by
  have h := run.tailing
  have hasc : Ascending (log.held l.now) := log.ascending _
  obtain ⟨page, base, hstretch⟩ := h.stretch c present
  have hsuffix := hstretch.suffix_upTo hasc
  have hrecords := hstretch.records_eq
  rw [h.capacity_eq] at hrecords
  refine ⟨page, base, hstretch.baseline, hstretch.base_token, hsuffix, hrecords, ?_⟩
  have hsorted : Ascending (upTo l.engine.level c (log.held l.now)) :=
    List.Pairwise.filter _ (hasc.ofLevel l.engine.level)
  rw [hrecords]
  exact hsorted.sublist ((List.drop_sublist _ _).trans hsuffix.sublist)

def threeRecords : List Record :=
  [⟨"t1", .info, "up", none, none, []⟩, ⟨"t2", .warn, "slow", none, none, []⟩,
    ⟨"t3", .info, "done", none, none, []⟩]

def threeMoments : GrowingLog where
  held n := threeRecords.take n
  grows _ _ h := List.take_prefix_take_left h
  ascending n := by
    have h : Ascending threeRecords := by
      unfold Ascending threeRecords
      decide
    exact List.Pairwise.sublist (List.take_sublist n _) h

/-- A full load brings the first record, and a poll that the log outruns brings the other two. -/
def slowPoll : List Act :=
  [.ask (.start none),
    .complete ⟨0, 1, .full, .full none none⟩ (.ok ⟨threeRecords.take 1, .ofToken "t1"⟩),
    .ask .tick,
    .wait,
    .complete ⟨2, 1, .incremental, .incremental none (.ofToken "t1")⟩
      (.ok ⟨threeRecords.drop 1, .ofToken "t3"⟩)]

/-- The buffer has room for two of the three. -/
theorem buffer_is_tail_of_log_three :
    Run threeMoments.Answers (new 2 none) ((new 2 none).replay slowPoll) ∧
    ((new 2 none).replay slowPoll).engine.cursor.token = some "t3" ∧
    Ascending ((new 2 none).replay slowPoll).engine.store.records := by
  have hfull : FullPage none (threeRecords.take 1) ⟨threeRecords.take 1, .ofToken "t1"⟩ := by
    refine ⟨List.suffix_refl _, ?_, ?_⟩
    · intro hnone
      exact absurd hnone (by decide)
    · intro c hc
      obtain rfl : "t1" = c := Option.some.inj hc
      exact ⟨by decide, _, List.mem_singleton.mpr rfl, le_refl _⟩
  have hnew : NewPage none "t1" threeRecords ⟨threeRecords.drop 1, .ofToken "t3"⟩ := by
    refine ⟨rfl, "t3", rfl, by decide, by decide, .inr ?_⟩
    exact ⟨_, List.mem_of_getLast? rfl, le_refl _⟩
  have run : Run threeMoments.Answers (new 2 none) ((new 2 none).replay slowPoll) := by
    refine .of_valid ⟨trivial, ⟨by decide, ?_⟩, trivial, trivial, ⟨by decide, ?_⟩, trivial⟩
    · exact ⟨threeRecords.take 1, List.nil_prefix, List.prefix_refl _, hfull⟩
    · exact ⟨threeMoments.held 4, threeMoments.grows 2 4 (by decide), List.prefix_refl _, hnew⟩
  have hcursor : ((new 2 none).replay slowPoll).engine.cursor.token = some "t3" := by decide
  obtain ⟨page, base, -, -, -, -, hasc⟩ := buffer_is_tail_of_log threeMoments run hcursor
  exact ⟨run, hcursor, hasc⟩

end Ledger

end LogTail

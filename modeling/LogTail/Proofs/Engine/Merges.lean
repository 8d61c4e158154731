import LogTail.Proofs.Store
import LogTail.Proofs.Engine.Ledger

/-!
What went into the buffer. Beside a run stands the plain list of the records that it has merged: a
full load begins the list anew, each poll that is added makes it longer, and a clear takes it away.
The buffer holds the newest records of that list, although it never sees the list and evicts as it
goes. Answers may come for every ticket ever issued, in any order and more than once.
-/
namespace LogTail

open Engine

/-- The records merged when an act is done: `past` before it, none without a full load since the
last clear. -/
def Engine.merged (e : Engine) (past : Option (List Record)) (completion : Option Completion) :
    Act → Option (List Record)
  | .complete _ (.ok page) =>
    match completion with
    | some (.replaced _) => some page.records
    | some (.appended _ _) => past.map (· ++ page.records)
    | _ => past
  | .clearSucceeded => if e.phase = .closed then past else none
  | _ => past

/-- Whether the numbers that an answer is reported with are those of what it did to the buffer. -/
def Completion.Accounts (before after : Store) (result : Except Fault Page) : Completion → Prop
  | .replaced n => ∃ page, result = .ok page ∧ n = page.records.length ∧
      after.records = page.records.rtake before.capacity
  | .appended n evicted => ∃ page, result = .ok page ∧ n = page.records.length ∧
      after.records = (before.records ++ page.records).drop evicted ∧
      evicted + after.records.length = before.records.length + n
  | _ => after = before

/-- The numbers are right whenever the buffer is within its capacity. -/
theorem Engine.accounts_complete {e : Engine} (hfits : e.store.Fits) (i : Issue)
    (result : Except Fault Page) :
    (e.complete i.ticket result).2.Accounts e.store (e.complete i.ticket result).1.store
      result := by
  have hturn := e.turn (.complete i result)
  rw [act] at hturn
  generalize e.complete i.ticket result = outcome at hturn ⊢
  obtain ⟨after, completion⟩ := outcome
  cases hturn with
  | dropped => rfl
  | @loaded _ page => exact ⟨page, rfl, rfl, e.store.replace_records page.records⟩
  | loadFailed => rfl
  | pollFailed => rfl
  | heartbeat => rfl
  | @merged _ page =>
    have hlength : e.store.records.length = e.store.entries.length := List.length_map _
    have hcut : (e.store.records ++ page.records).rtake e.store.capacity =
        (e.store.records ++ page.records).drop (e.store.append page.records).2 := by
      rw [List.rtake, List.length_append, hlength, Store.append_evicted _ _ hfits]
    have hrecords := (Store.append_records e.store page.records hfits).trans hcut
    refine ⟨page, rfl, rfl, hrecords, ?_⟩
    simp only [hrecords, List.length_drop, List.length_append]
    rw [Store.append_evicted _ _ hfits, hlength]
    omega

namespace Ledger

/-- The runs in which answers are given to issued tickets only, with the records merged by each. -/
inductive Merges (capacity : ℕ) (limit : Option ℕ) : Ledger → Option (List Record) → Prop
  | new : Merges capacity limit (new capacity limit) none
  | step {l : Ledger} {past : Option (List Record)} {a : Act}
      (merges : Merges capacity limit l past)
      (known : ∀ i result, a = .complete i result → i ∈ l.issued) :
      Merges capacity limit (l.record a) (l.engine.merged past (l.engine.act a).completion a)

/-- The buffer beside the list of what was merged. A position, and a poll of the engine's epoch, are
there only after a full load. -/
structure Kept (capacity : ℕ) (l : Ledger) (past : Option (List Record)) : Prop where
  fits : l.engine.store.Fits
  capacity_eq : l.engine.store.capacity = capacity
  records_eq : l.engine.store.records = (past.getD []).rtake capacity
  cursor_loaded : l.engine.cursor.isAbsent = false → past.isSome = true
  poll_loaded : ∀ i ∈ l.issued, i.ticket.kind = .incremental → i.ticket.epoch = l.engine.epoch →
    past.isSome = true

namespace Kept

variable {capacity : ℕ} {l : Ledger} {past : Option (List Record)}

/-- Before the first load nothing has been merged. -/
theorem of_new (capacity : ℕ) (limit : Option ℕ) : Kept capacity (new capacity limit) none where
  fits := Store.empty_fits capacity
  capacity_eq := rfl
  records_eq := (List.rtake_nil capacity).symm
  cursor_loaded := fun h => Bool.noConfusion h
  poll_loaded := fun _ hi => nomatch hi

/-- An act that merges nothing and stays in the epoch. What it issues is issued by an engine with a
position. -/
theorem note_same (h : Kept capacity l past) {a : Act} {e : Engine} {tickets : List Ticket}
    {c : Option Completion} (hstore : e.store = l.engine.store) (hepoch : e.epoch = l.engine.epoch)
    (hcursor : e.cursor.isAbsent = false → past.isSome = true)
    (hnew : tickets = [] ∨ l.engine.cursor.isAbsent = false) :
    Kept capacity (l.note a e tickets c) past := by
  refine ⟨?_, ?_, ?_, hcursor, ?_⟩
  · change e.store.Fits
    rw [hstore]
    exact h.fits
  · exact (congrArg Store.capacity hstore).trans h.capacity_eq
  · exact (congrArg Store.records hstore).trans h.records_eq
  · intro i hi hkind hcurrent
    rcases List.mem_append.mp hi with hi | hi
    · exact h.poll_loaded i hi hkind (hcurrent.trans hepoch)
    · rcases hnew with rfl | hpresent
      · cases hi
      · exact h.cursor_loaded hpresent

/-- An act that opens an epoch leaves no position, and its ticket is for a full load. -/
theorem note_opened (h : Kept capacity l past) (hd : l.Dated) {a : Act} {e : Engine}
    {tickets : List Ticket} {later : Option (List Record)} (hfits : e.store.Fits)
    (hcapacity : e.store.capacity = l.engine.store.capacity)
    (hrecords : e.store.records = (later.getD []).rtake capacity)
    (hcursor : e.cursor.isAbsent = true) (hepoch : e.epoch = l.engine.epoch + 1)
    (hkind : ∀ t ∈ tickets, t.kind = .full) : Kept capacity (l.note a e tickets none) later := by
  refine ⟨hfits, hcapacity.trans h.capacity_eq, hrecords, ?_, ?_⟩
  · intro hpresent
    exact Bool.noConfusion (hpresent.symm.trans hcursor)
  · intro i hi hpoll hcurrent
    rcases List.mem_append.mp hi with hi | hi
    · exact absurd hcurrent (hd.epoch_ne_of_opened hepoch hi)
    · obtain ⟨t, ht, rfl⟩ := List.mem_map.mp hi
      exact FetchKind.noConfusion (hpoll.symm.trans (hkind t ht))

/-- An act that merges a page: from then on there has been a full load. -/
theorem note_merged (h : Kept capacity l past) {a : Act} {e : Engine} {c : Option Completion}
    {all : List Record} (hfits : e.store.Fits)
    (hcapacity : e.store.capacity = l.engine.store.capacity)
    (hrecords : e.store.records = all.rtake capacity) :
    Kept capacity (l.note a e [] c) (some all) where
  fits := hfits
  capacity_eq := hcapacity.trans h.capacity_eq
  records_eq := hrecords
  cursor_loaded := fun _ => rfl
  poll_loaded := fun _ _ _ _ => rfl

/-- One act: the buffer stays the newest of what was merged, also when a ticket is answered again.
-/
theorem record (h : Kept capacity l past) (hd : l.Dated) {a : Act}
    (known : ∀ i result, a = .complete i result → i ∈ l.issued) :
    Kept capacity (l.record a) (l.engine.merged past (l.engine.act a).completion a) := by
  have hturn := l.engine.turn a
  unfold Ledger.record
  generalize l.engine.act a = reaction at hturn ⊢
  cases hturn with
  | wait => exact h.note_same rfl rfl h.cursor_loaded (.inl rfl)
  | idle => exact h.note_same rfl rfl h.cursor_loaded (.inl rfl)
  | load =>
    refine h.note_opened hd h.fits rfl h.records_eq rfl rfl ?_
    intro t ht
    rw [List.mem_singleton.mp ht]
  | poll polls => exact h.note_same rfl rfl h.cursor_loaded (.inr polls.2.2.2)
  | @dropped i result =>
    have hpast : l.engine.merged past (some .dropped) (.complete i result) = past := by
      cases result <;> rfl
    rw [hpast]
    exact h.note_same rfl rfl h.cursor_loaded (.inl rfl)
  | @loaded i page =>
    refine h.note_merged (Store.replace_fits _ _) (Store.replace_capacity _ _) ?_
    rw [← h.capacity_eq]
    exact Store.replace_records _ _
  | loadFailed => exact h.note_same rfl rfl h.cursor_loaded (.inl rfl)
  | @pollFailed i result report =>
    have hpast : l.engine.merged past (some (.failed report)) (.complete i result) = past := by
      cases result <;> rfl
    rw [hpast]
    exact h.note_same rfl rfl h.cursor_loaded (.inl rfl)
  | @heartbeat i page live poll =>
    refine h.note_same rfl rfl (fun _ => ?_) (.inl rfl)
    exact h.poll_loaded i (known i _ rfl) poll live.2
  | @merged i page live poll =>
    -- the poll was issued after a full load, so the list is there to be made longer
    obtain ⟨all, rfl⟩ := Option.isSome_iff_exists.mp (h.poll_loaded i (known i _ rfl) poll live.2)
    refine h.note_merged (Store.append_fits _ _ h.fits) (Store.append_capacity _ _) ?_
    calc (l.engine.store.append page.records).1.records
        = (l.engine.store.records ++ page.records).rtake l.engine.store.capacity :=
          Store.append_records _ _ h.fits
      _ = (all.rtake capacity ++ page.records).rtake capacity := by
          rw [h.records_eq, h.capacity_eq, Option.getD_some]
      _ = (all ++ page.records).rtake capacity := rtake_append_rtake _ _ _
  | clearedLate closed =>
    have hpast : l.engine.merged past none .clearSucceeded = past := if_pos closed
    rw [hpast]
    exact h.note_same rfl rfl h.cursor_loaded (.inl rfl)
  | cleared live =>
    have hpast : l.engine.merged past none .clearSucceeded = none := if_neg live
    rw [hpast]
    exact h.note_opened hd (Store.clear_fits _) rfl (List.rtake_nil capacity).symm rfl rfl
      (fun _ ht => nomatch ht)
  | closed => exact h.note_same rfl rfl h.cursor_loaded (.inl rfl)

end Kept

theorem Merges.kept {capacity : ℕ} {limit : Option ℕ} {l : Ledger} {past : Option (List Record)}
    (merges : Merges capacity limit l past) : l.Dated ∧ Kept capacity l past := by
  induction merges with
  | new => exact ⟨.of_new capacity limit, .of_new capacity limit⟩
  | step _ known ih => exact ⟨ih.1.record _, ih.2.record ih.1 known⟩

/-- A run that answers each ticket at most once is one of these. -/
theorem Run.merges {supply : Supply} {capacity : ℕ} {limit : Option ℕ} {l : Ledger}
    (run : Run supply (new capacity limit) l) : ∃ past, Merges capacity limit l past := by
  induction run with
  | refl => exact ⟨none, .new⟩
  | @step m a _ allowed ih =>
    obtain ⟨past, hpast⟩ := ih
    refine ⟨_, hpast.step ?_⟩
    rintro i result rfl
    exact hpast.kept.1.waiting_issued i (waits_of_allows allowed)

/-- The buffer is the bounded history of what was merged. It holds the newest records of the last
full load and of all polls added since, and none if the log was cleared since that load; a clear
that the engine hears of after its end does not count. The numbers that each answer is reported with
are right, and an answer that is reported as anything but replaced or appended leaves the buffer as
it is. -/
theorem buffer_is_newest_merged {capacity : ℕ} {limit : Option ℕ} {l : Ledger}
    {past : Option (List Record)} (merges : Merges capacity limit l past) :
    l.engine.store.records = (past.getD []).rtake capacity ∧
    ∀ (i : Issue) (result : Except Fault Page),
      (l.engine.complete i.ticket result).2.Accounts l.engine.store
        (l.engine.complete i.ticket result).1.store result := by
  have hkept := merges.kept.2
  exact ⟨hkept.records_eq, accounts_complete hkept.fits⟩

def firstRecord : Record := ⟨"t1", .info, "up", none, none, []⟩

def secondRecord : Record := ⟨"t2", .warn, "slow", none, none, []⟩

/-- A full load, and a poll whose answer is handed in twice. -/
def answerRepeated : Ledger :=
  (new 2 none).replay
    [.ask (.start none),
      .complete ⟨0, 1, .full, .full none none⟩ (.ok ⟨[firstRecord], .ofToken "t1"⟩),
      .ask .tick,
      .complete ⟨2, 1, .incremental, .incremental none (.ofToken "t1")⟩
        (.ok ⟨[secondRecord], .ofToken "t2"⟩),
      .complete ⟨2, 1, .incremental, .incremental none (.ofToken "t1")⟩
        (.ok ⟨[secondRecord], .ofToken "t2"⟩)]

/-- Both answers are merged, and the buffer has no room any more for what was loaded first. -/
theorem buffer_is_newest_merged_repeated :
    Merges 2 none answerRepeated (some [firstRecord, secondRecord, secondRecord]) ∧
    answerRepeated.engine.store.records = [secondRecord, secondRecord] := by
  have merges : Merges 2 none answerRepeated
      (some [firstRecord, secondRecord, secondRecord]) := by
    refine .step (.step (.step (.step (.step .new ?_) ?_) ?_) ?_) ?_
    all_goals
      intro i result h
      cases h
    · exact List.mem_singleton.mpr rfl
    · exact List.mem_cons_of_mem _ (List.mem_singleton.mpr rfl)
    · exact List.mem_cons_of_mem _ (List.mem_singleton.mpr rfl)
  exact ⟨merges, (buffer_is_newest_merged merges).1⟩

/-- A full load, the end, and a clear that the engine hears of only then. -/
def clearAfterEnd : Ledger :=
  (new 2 none).replay
    [.ask (.start none),
      .complete ⟨0, 1, .full, .full none none⟩ (.ok ⟨[firstRecord], .ofToken "t1"⟩),
      .close,
      .clearSucceeded]

/-- Nothing was loaded since that clear, and the buffer is not empty. -/
theorem records_outlast_late_clear :
    Run anything (new 2 none) clearAfterEnd ∧
    (∀ receipt ∈ clearAfterEnd.receipts, ∀ n, receipt.completion = .replaced n →
      ∃ m ∈ clearAfterEnd.clears, receipt.moment < m) ∧
    clearAfterEnd.engine.store.records = [firstRecord] := by
  refine ⟨.of_valid ⟨trivial, ⟨by decide, trivial⟩, trivial, trivial, trivial⟩, ?_, rfl⟩
  intro receipt hmem n _
  rw [List.mem_singleton.mp hmem]
  exact ⟨3, List.mem_singleton.mpr rfl, by decide⟩

end Ledger

end LogTail

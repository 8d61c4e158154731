import LogTail.Proofs.Service.Reply
import LogTail.Proofs.Engine.Outstanding

/-!
The page that an epoch begins with. Once the full load of an epoch was answered the engine streams,
and it has a cursor if and only if that page had one: polls never lose a cursor, and without one
there are no polls. So a service that had nothing to answer the full load with, not even a
timestamp, is not asked again.
-/
namespace LogTail

open Engine

namespace Ledger

/-- Whether a page is the one that the engine's epoch began with. -/
def Baseline (l : Ledger) (page : Page) : Prop :=
  ∃ receipt ∈ l.receipts, receipt.issue.ticket.epoch = l.engine.epoch ∧
    receipt.result = .ok page ∧ receipt.completion = .replaced page.records.length

def replies : Supply := fun _ i page =>
  ∃ r : Reply, r.page i.ticket.query.isFull = .ok page

/-- What an engine whose epoch has begun knows of its first page. -/
structure Based (l : Ledger) : Prop where
  receipts_past : ∀ receipt ∈ l.receipts, receipt.issue.ticket.epoch ≤ l.engine.epoch
  of_reply : ∀ page, l.Baseline page → ∃ r : Reply, r.page true = .ok page
  phase : ∀ page, l.Baseline page → l.engine.phase = .streaming ∨ l.engine.phase = .closed
  cursor : ∀ page, l.Baseline page → l.engine.cursor.isAbsent = page.next.isAbsent

variable {l : Ledger}

/-- The first page of an epoch stays the first page as long as the epoch lasts. -/
theorem Baseline.note {page : Page} (h : l.Baseline page) {a : Act} {e : Engine}
    {tickets : List Ticket} {completion : Option Completion} (hepoch : e.epoch = l.engine.epoch) :
    (l.note a e tickets completion).Baseline page := by
  obtain ⟨receipt, hmem, hcurrent, hok⟩ := h
  exact ⟨receipt, List.mem_append_left _ hmem, hcurrent.trans hepoch.symm, hok⟩

theorem mem_receipt_complete {i : Issue} {result : Except Fault Page} {c : Completion}
    {receipt : Receipt} (h : receipt ∈ l.receipt (some c) (.complete i result)) :
    receipt = ⟨l.now, i, result, c⟩ :=
  List.mem_singleton.mp h

namespace Based

/-- Before the first load there is no epoch to know a page of. -/
theorem of_new (capacity : ℕ) (limit : Option ℕ) : (new capacity limit).Based where
  receipts_past := fun _ hmem => nomatch hmem
  of_reply := fun _ ⟨_, hmem, _⟩ => nomatch hmem
  phase := fun _ ⟨_, hmem, _⟩ => nomatch hmem
  cursor := fun _ ⟨_, hmem, _⟩ => nomatch hmem

/-- The full load of an epoch that has begun does not wait any more. -/
theorem not_waiting (h : l.Based) (hg : l.Guarded) {page : Page} (hbase : l.Baseline page)
    {i : Issue} (hi : i ∈ l.waiting) (live : l.engine.Accepts i.ticket)
    (full : i.ticket.kind = .full) : False := by
  have hloading : l.engine.phase = .loading := (hg.load_phase i hi full live.2).resolve_right live.1
  rcases h.phase page hbase with hp | hp
  · exact Phase.noConfusion (hloading.symm.trans hp)
  · exact live.1 hp

/-- An act that stays in the epoch, begins nothing, and neither loses the cursor nor gets the
first one. -/
theorem note_kept (h : l.Based) {a : Act} {e : Engine} {tickets : List Ticket}
    {completion : Option Completion} (hepoch : e.epoch = l.engine.epoch)
    (hreceipt : ∀ receipt ∈ l.receipt completion a,
      receipt.issue.ticket.epoch ≤ l.engine.epoch ∧ ∀ n, receipt.completion ≠ .replaced n)
    (hkept : ∀ page, l.Baseline page → (e.phase = .streaming ∨ e.phase = .closed) ∧
      e.cursor.isAbsent = l.engine.cursor.isAbsent) :
    (l.note a e tickets completion).Based := by
  have hold {page : Page} (hbase : (l.note a e tickets completion).Baseline page) :
      l.Baseline page := by
    obtain ⟨receipt, hmem, hcurrent, hok, hreplaced⟩ := hbase
    rcases List.mem_append.mp hmem with hmem | hmem
    · exact ⟨receipt, hmem, hcurrent.trans hepoch, hok, hreplaced⟩
    · exact absurd hreplaced ((hreceipt receipt hmem).2 _)
  refine ⟨?_, ?_, ?_, ?_⟩
  · intro receipt hmem
    change receipt.issue.ticket.epoch ≤ e.epoch
    rw [hepoch]
    rcases List.mem_append.mp hmem with hmem | hmem
    · exact h.receipts_past receipt hmem
    · exact (hreceipt receipt hmem).1
  · intro page hbase
    exact h.of_reply page (hold hbase)
  · intro page hbase
    exact (hkept page (hold hbase)).1
  · intro page hbase
    exact (hkept page (hold hbase)).2.trans (h.cursor page (hold hbase))

/-- An act that is no answer and opens no epoch keeps what is known of the first page. -/
theorem note_quiet (h : l.Based) {a : Act} {e : Engine} {tickets : List Ticket}
    {completion : Option Completion} (hepoch : e.epoch = l.engine.epoch)
    (hphase : e.phase = l.engine.phase ∨ e.phase = .closed) (hcursor : e.cursor = l.engine.cursor)
    (hreceipt : l.receipt completion a = []) : (l.note a e tickets completion).Based := by
  apply h.note_kept hepoch
  · intro receipt hmem
    rw [hreceipt] at hmem
    cases hmem
  · intro page hbase
    refine ⟨?_, congrArg Cursor.isAbsent hcursor⟩
    rcases hphase with hp | hp
    · rw [hp]
      exact h.phase page hbase
    · exact .inr hp

/-- An epoch that has just been opened has no first page yet, since no answer is of an epoch to
come. -/
theorem note_opened (h : l.Based) {a : Act} {e : Engine} {tickets : List Ticket}
    (hepoch : e.epoch = l.engine.epoch + 1) (hreceipt : l.receipt none a = []) :
    (l.note a e tickets none).Based := by
  have hpast {receipt : Receipt} (hmem : receipt ∈ (l.note a e tickets none).receipts) :
      receipt.issue.ticket.epoch ≤ l.engine.epoch := by
    rw [note, hreceipt, List.append_nil] at hmem
    exact h.receipts_past receipt hmem
  have hnone {page : Page} : ¬ (l.note a e tickets none).Baseline page := by
    rintro ⟨receipt, hmem, hcurrent, -⟩
    have hle := hpast hmem
    change receipt.issue.ticket.epoch = e.epoch at hcurrent
    omega
  refine ⟨?_, fun _ hbase => absurd hbase hnone, fun _ hbase => absurd hbase hnone,
    fun _ hbase => absurd hbase hnone⟩
  intro receipt hmem
  have hle := hpast hmem
  change receipt.issue.ticket.epoch ≤ e.epoch
  omega

/-- The answer to the full load of an epoch is its first page. -/
theorem note_loaded (h : l.Based) (hg : l.Guarded) {i : Issue} {page : Page} {e : Engine}
    (hi : i ∈ l.waiting) (live : l.engine.Accepts i.ticket) (full : i.ticket.kind = .full)
    (hreply : ∃ r : Reply, r.page true = .ok page) (hepoch : e.epoch = l.engine.epoch)
    (hphase : e.phase = .streaming) (hcursor : e.cursor = page.next) :
    (l.note (.complete i (.ok page)) e [] (some (.replaced page.records.length))).Based := by
  have honly {first : Page} (hbase : (l.note (.complete i (.ok page)) e []
      (some (.replaced page.records.length))).Baseline first) : first = page := by
    obtain ⟨receipt, hmem, hcurrent, hok, hreplaced⟩ := hbase
    rcases List.mem_append.mp hmem with hmem | hmem
    · -- an epoch that has begun has no full load left to be answered
      exact (h.not_waiting hg ⟨receipt, hmem, hcurrent.trans hepoch, hok, hreplaced⟩ hi live
        full).elim
    · rw [mem_receipt_complete hmem] at hok
      exact (Except.ok.inj hok).symm
  refine ⟨?_, ?_, ?_, ?_⟩
  · intro receipt hmem
    change receipt.issue.ticket.epoch ≤ e.epoch
    rw [hepoch]
    rcases List.mem_append.mp hmem with hmem | hmem
    · exact h.receipts_past receipt hmem
    · rw [mem_receipt_complete hmem]
      exact live.2.le
  · intro first hbase
    rw [honly hbase]
    exact hreply
  · intro _ _
    exact .inl hphase
  · intro first hbase
    rw [honly hbase]
    exact congrArg Cursor.isAbsent hcursor

/-- A poll that is answered makes no page the first, and takes no cursor away. -/
theorem note_polled (h : l.Based) (hg : l.Guarded) {i : Issue} {result : Except Fault Page}
    {e : Engine} {c : Completion} (hi : i ∈ l.waiting) (live : l.engine.Accepts i.ticket)
    (poll : i.ticket.kind = .incremental) (hepoch : e.epoch = l.engine.epoch)
    (hphase : e.phase = l.engine.phase)
    (hcursor : ∃ next, e.cursor = l.engine.cursor.advance next) (hc : ∀ n, c ≠ .replaced n) :
    (l.note (.complete i result) e [] (some c)).Based := by
  obtain ⟨hpresent, -⟩ := hg.poll_asks i hi poll live.2
  obtain ⟨next, hnext⟩ := hcursor
  apply h.note_kept hepoch
  · intro receipt hmem
    rw [mem_receipt_complete hmem]
    exact ⟨live.2.le, hc⟩
  · -- a poll of the epoch had a cursor to ask from, and advancing does not lose it
    intro page _
    refine ⟨.inl (hphase.trans (hg.streaming_of_poll hi live poll)), ?_⟩
    rw [hnext, Cursor.isAbsent_advance, hpresent, Bool.false_and]

/-- One act keeps what is known of the first page, as long as answers are pages that some reply
makes up. -/
theorem record (h : l.Based) (hd : l.Dated) (hg : l.Guarded) {a : Act}
    (allowed : l.Allows replies a) : (l.record a).Based := by
  have hturn := l.engine.turn a
  unfold Ledger.record
  generalize l.engine.act a = reaction at hturn ⊢
  cases hturn with
  | wait => exact h.note_quiet rfl (.inl rfl) rfl rfl
  | idle => exact h.note_quiet rfl (.inl rfl) rfl rfl
  | load => exact h.note_opened rfl rfl
  | poll => exact h.note_quiet rfl (.inl rfl) rfl rfl
  -- its receipt may be of the epoch, but it is not one that replaced the buffer
  | @dropped i result late =>
    have hissued := hd.waiting_issued i (waits_of_allows allowed)
    refine h.note_kept rfl ?_ ?_
    · intro receipt hmem
      rw [mem_receipt_complete hmem]
      exact ⟨hd.epoch_le i hissued, fun _ => Completion.noConfusion⟩
    · intro page hbase
      exact ⟨h.phase page hbase, rfl⟩
  | @loaded i page live full =>
    obtain ⟨hi, r, hr⟩ := allowed
    rw [(hd.full_iff i (hd.waiting_issued i hi)).mpr full] at hr
    exact h.note_loaded hg hi live full ⟨r, hr⟩ rfl rfl rfl
  -- had there been a first page already, this load would no longer wait
  | @loadFailed i fault live full =>
    refine h.note_kept rfl ?_ ?_
    · intro receipt hmem
      rw [mem_receipt_complete hmem]
      exact ⟨live.2.le, fun _ => Completion.noConfusion⟩
    · intro page hbase
      exact (h.not_waiting hg hbase (waits_of_allows allowed) live full).elim
  | pollFailed live poll =>
    exact h.note_polled hg (waits_of_allows allowed) live poll rfl rfl
      ⟨.absent, (Cursor.advance_of_isAbsent _ rfl).symm⟩ fun _ => Completion.noConfusion
  | heartbeat live poll =>
    exact h.note_polled hg (waits_of_allows allowed) live poll rfl rfl ⟨_, rfl⟩
      fun _ => Completion.noConfusion
  | merged live poll =>
    exact h.note_polled hg (waits_of_allows allowed) live poll rfl rfl ⟨_, rfl⟩
      fun _ => Completion.noConfusion
  | clearedLate => exact h.note_quiet rfl (.inl rfl) rfl rfl
  | cleared => exact h.note_opened rfl rfl
  | closed => exact h.note_quiet rfl (.inr rfl) rfl rfl

end Based

theorem Run.based {capacity : ℕ} {limit : Option ℕ} (run : Run replies (new capacity limit) l) :
    l.Based := by
  have h := run.keeps (P := fun m => m.Dated ∧ m.Guarded ∧ m.Based)
    ⟨.of_new capacity limit, .of_new capacity limit, .of_new capacity limit⟩
    fun _ a ⟨hd, hg, hb⟩ allowed => ⟨hd.record a, hg.record hd allowed, hb.record hd hg allowed⟩
  exact h.2.2

/-- An engine with nothing to ask for goes on having nothing to ask for, however often it is
asked. -/
theorem replay_ticks (no_load : ¬ Request.tick.Loads l.engine)
    (no_poll : ¬ Request.tick.Polls l.engine) (n : ℕ) :
    (l.replay (List.replicate n (.ask .tick))).engine = l.engine ∧
      (l.replay (List.replicate n (.ask .tick))).issued = l.issued := by
  induction n with
  | zero => exact ⟨rfl, rfl⟩
  | succ n ih =>
    obtain ⟨hengine, hissued⟩ := ih
    rw [List.replicate_succ', replay, List.foldl_append, List.foldl_cons, List.foldl_nil]
    change ((l.replay (List.replicate n (.ask .tick))).record (.ask .tick)).engine = _ ∧
      ((l.replay (List.replicate n (.ask .tick))).record (.ask .tick)).issued = _
    have hact : l.engine.act (.ask .tick) = ⟨l.engine, none, none⟩ := by
      rw [act, ask_of_idle no_load no_poll]
    rw [record, hengine, hact]
    exact ⟨rfl, (List.append_nil _).trans hissued⟩

/-- After the full load of an epoch was answered, and with nothing under way, the next tick polls,
unless the reply had neither records nor a timestamp. Then no tick ever brings out a query. -/
theorem tick_polls_unless_reply_empty {capacity : ℕ} {limit : Option ℕ}
    (run : Run replies (new capacity limit) l) (streaming : l.engine.phase = .streaming)
    {page : Page} (begun : l.Baseline page) (idle : l.waiting = []) :
    (∃ r : Reply, r.page true = .ok page) ∧ ∀ r : Reply, r.page true = .ok page →
      (¬ (r.logs = [] ∧ r.lastTimestamp = some "") →
        l.engine.tick = ({ l.engine with inFlight := true },
          some ⟨l.engine.epoch, .incremental,
            .incremental l.engine.level l.engine.cursor⟩)) ∧
      (r.logs = [] ∧ r.lastTimestamp = some "" → ∀ n,
        (l.replay (List.replicate n (.ask .tick))).engine = l.engine ∧
          (l.replay (List.replicate n (.ask .tick))).issued = l.issued) := by
  have hg := run.guarded
  have hb := run.based
  have hcursor := hb.cursor page begun
  have hfree : l.engine.inFlight = false := by
    by_contra hne
    obtain ⟨i, hi, -⟩ := hg.in_flight_iff.mp (Bool.eq_true_of_not_eq_false hne)
    rw [idle] at hi
    cases hi
  refine ⟨hb.of_reply page begun, fun r hr => ⟨?_, ?_⟩⟩
  · intro hsome
    have hpresent : l.engine.cursor.isAbsent = false := by
      rw [hcursor]
      exact Bool.eq_false_of_not_eq_true (mt (Reply.isAbsent_page hr).mp hsome)
    exact ask_of_polls ⟨rfl, streaming, hfree, hpresent⟩
  · intro hempty
    have habsent : l.engine.cursor.isAbsent = true := by
      rw [hcursor]
      exact (Reply.isAbsent_page hr).mpr hempty
    apply replay_ticks
    · rintro ⟨herror, -⟩
      exact Phase.noConfusion (streaming.symm.trans herror)
    · rintro ⟨-, -, -, hpresent⟩
      exact Bool.noConfusion (habsent.symm.trans hpresent)

def loadedOnce (r : Reply) : List Act :=
  [.ask (.start none), .complete ⟨0, 1, .full, .full none none⟩ (r.page true)]

/-- With a timestamp and no records the next tick polls. -/
theorem tick_polls_unless_reply_empty_timestamp :
    Run replies (new 2 none) ((new 2 none).replay (loadedOnce ⟨[], some "t0", none⟩)) ∧
    ((new 2 none).replay (loadedOnce ⟨[], some "t0", none⟩)).Baseline ⟨[], .ofToken "t0"⟩ ∧
    (((new 2 none).replay (loadedOnce ⟨[], some "t0", none⟩)).engine.tick).2 =
      some ⟨1, .incremental, .incremental none (.ofToken "t0")⟩ := by
  have run : Run replies (new 2 none)
      ((new 2 none).replay (loadedOnce ⟨[], some "t0", none⟩)) :=
    .of_valid ⟨trivial, ⟨by decide, ⟨[], some "t0", none⟩, rfl⟩, trivial⟩
  have begun : ((new 2 none).replay (loadedOnce ⟨[], some "t0", none⟩)).Baseline
      ⟨[], .ofToken "t0"⟩ := ⟨_, List.mem_singleton.mpr rfl, rfl, rfl, rfl⟩
  obtain ⟨-, hpolls⟩ := tick_polls_unless_reply_empty run rfl begun rfl
  obtain ⟨htick, -⟩ := hpolls ⟨[], some "t0", none⟩ rfl
  refine ⟨run, begun, ?_⟩
  rw [htick (by rintro ⟨-, hlast⟩; exact absurd hlast (by decide))]
  rfl

/-- With neither it does not, although the engine streams and nothing is under way. -/
theorem tick_idle_after_empty_reply :
    Run replies (new 2 none) ((new 2 none).replay (loadedOnce ⟨[], some "", none⟩)) ∧
    ((new 2 none).replay (loadedOnce ⟨[], some "", none⟩)).engine.phase = .streaming ∧
    ((new 2 none).replay (loadedOnce ⟨[], some "", none⟩)).Baseline ⟨[], .absent⟩ ∧
    ((new 2 none).replay (loadedOnce ⟨[], some "", none⟩)).waiting = [] ∧
    (((new 2 none).replay (loadedOnce ⟨[], some "", none⟩)).engine.tick).2 = none := by
  refine ⟨.of_valid ⟨trivial, ⟨by decide, ⟨[], some "", none⟩, rfl⟩, trivial⟩, rfl, ?_, rfl, rfl⟩
  exact ⟨_, List.mem_singleton.mpr rfl, rfl, rfl, rfl⟩

end Ledger

end LogTail

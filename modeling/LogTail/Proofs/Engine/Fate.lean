import LogTail.Proofs.Engine.Staleness

/-!
What becomes of a request to load everything anew. From the moment on that the request begins a full
load, either such a load has been applied since, or the last one begun is under way or to be tried
again, or a clear came after it; then the engine streams without a cursor and nothing will come.
-/
namespace LogTail.Ledger

open Engine

def LoadedSince (l : Ledger) (m : ℕ) : Prop :=
  ∃ receipt ∈ l.receipts, receipt.issue.ticket.kind = .full ∧ m ≤ receipt.issue.moment ∧
    ∃ n, receipt.completion = .replaced n

/-- Whether a full load begun at a moment or later came after every clear. -/
def OutlivesClears (l : Ledger) (m : ℕ) : Prop :=
  ∃ i ∈ l.issued, i.ticket.kind = .full ∧ m ≤ i.moment ∧ ∀ c ∈ l.clears, c < i.moment

def Underway (m : ℕ) (l : Ledger) : Prop :=
  ∃ i ∈ l.issued, i.ticket.kind = .full ∧ m ≤ i.moment ∧ (∀ c ∈ l.clears, c < i.moment) ∧
    i.ticket.epoch = l.engine.epoch ∧ (l.engine.phase = .loading ∨ l.engine.phase = .error)

/-- Whether a clear came after all full loads, and nothing is left that could bring a cursor. -/
structure Lost (l : Ledger) : Prop where
  streaming : l.engine.phase = .streaming
  no_cursor : l.engine.cursor.isAbsent = true
  cleared : ∃ c ∈ l.clears, ∀ j ∈ l.issued, j.ticket.kind = .full → j.moment < c
  late : ∀ i ∈ l.waiting, i.ticket.epoch ≠ l.engine.epoch

/-- What may have become of a request that began a full load. -/
inductive Fate (m : ℕ) (l : Ledger) : Prop
  | closed (closed : l.engine.phase = .closed)
  | loaded (loaded : l.LoadedSince m)
  | underway (underway : Underway m l)
  | lost (lost : l.Lost)

variable {l : Ledger} {m : ℕ}

theorem LoadedSince.note (h : l.LoadedSince m) {a : Act} {e : Engine} {tickets : List Ticket}
    {completion : Option Completion} : (l.note a e tickets completion).LoadedSince m := by
  obtain ⟨receipt, hmem, hreplaced⟩ := h
  exact ⟨receipt, List.mem_append_left _ hmem, hreplaced⟩

/-- A request that loads begins a load of the epoch that it opens. -/
theorem Underway.of_load (hd : l.Dated) (hm : m ≤ l.now) {r : Request} {e : Engine} {t : Ticket}
    (hepoch : t.epoch = e.epoch) (hkind : t.kind = .full) (hphase : e.phase = .loading) :
    Underway m (l.note (.ask r) e [t] none) := by
  refine ⟨⟨l.now, t⟩, mem_issued_note_single.mpr (.inr rfl), hkind, hm, ?_, hepoch, .inl hphase⟩
  intro c hc
  have hclears : (l.note (.ask r) e [t] none).clears = l.clears := List.append_nil _
  exact hd.clears_past c (hclears ▸ hc)

/-- The load stays under way, or failed, through an act that neither clears nor opens an epoch. -/
theorem Underway.note (h : Underway m l) {a : Act} {e : Engine} {completion : Option Completion}
    (hclear : l.cleared a = []) (hepoch : e.epoch = l.engine.epoch)
    (hphase : e.phase = l.engine.phase ∨ e.phase = .error) :
    Underway m (l.note a e [] completion) := by
  obtain ⟨i, hi, hkind, hmoment, hclears, hcurrent, hwas⟩ := h
  refine ⟨i, mem_issued_note_nil.mpr hi, hkind, hmoment, ?_, hcurrent.trans hepoch.symm, ?_⟩
  · intro c hc
    rw [Ledger.note, hclear, List.append_nil] at hc
    exact hclears c hc
  · change e.phase = .loading ∨ e.phase = .error
    rcases hphase with hp | hp
    · rw [hp]
      exact hwas
    · exact .inr hp

/-- While the load of an epoch is under way or failed, the engine does not stream. -/
theorem Underway.not_streaming (h : Underway m l) : l.engine.phase ≠ .streaming := by
  obtain ⟨-, -, -, -, -, -, hp | hp⟩ := h
  · rw [hp]
    exact Phase.noConfusion
  · rw [hp]
    exact Phase.noConfusion

/-- A full load of the epoch is the one that is under way. -/
theorem Underway.loadedSince (h : Underway m l) (hd : l.Dated) {i : Issue} {page : Page}
    {e : Engine} {n : ℕ} (hi : i ∈ l.issued) (hcurrent : i.ticket.epoch = l.engine.epoch)
    (full : i.ticket.kind = .full) :
    (l.note (.complete i (.ok page)) e [] (some (.replaced n))).LoadedSince m := by
  obtain ⟨j, hj, hkind, hmoment, -, hepoch, -⟩ := h
  obtain rfl : i = j := hd.load_unique hi hj full hkind (hcurrent.trans hepoch.symm)
  exact ⟨⟨l.now, i, .ok page, .replaced n⟩, List.mem_append_right _ (List.mem_singleton.mpr rfl),
    full, hmoment, n, rfl⟩

/-- A clear opens an epoch without a load, and so without a cursor. -/
theorem Lost.of_clear (hd : l.Dated) {e : Engine} (hepoch : e.epoch = l.engine.epoch + 1)
    (hphase : e.phase = .streaming) (hcursor : e.cursor.isAbsent = true) :
    (l.note .clearSucceeded e [] none).Lost := by
  refine ⟨hphase, hcursor, ?_, ?_⟩
  · refine ⟨l.now, List.mem_append_right _ (List.mem_singleton.mpr rfl), ?_⟩
    intro j hj _
    exact hd.issued_past j (mem_issued_note_nil.mp hj)
  · intro i hi
    have hwaits := mem_of_mem_pending (mem_waiting_note_nil.mp hi)
    exact hd.epoch_ne_of_opened hepoch (hd.waiting_issued i hwaits)

/-- What is lost stays lost through every act that touches neither the epoch nor the cursor. -/
theorem Lost.note (h : l.Lost) {a : Act} {e : Engine} {completion : Option Completion}
    (hepoch : e.epoch = l.engine.epoch) (hphase : e.phase = l.engine.phase)
    (hcursor : e.cursor = l.engine.cursor) : (l.note a e [] completion).Lost := by
  refine ⟨hphase.trans h.streaming, ?_, ?_, ?_⟩
  · exact (congrArg Cursor.isAbsent hcursor).trans h.no_cursor
  · obtain ⟨c, hc, hlast⟩ := h.cleared
    refine ⟨c, List.mem_append_left _ hc, ?_⟩
    intro j hj
    exact hlast j (mem_issued_note_nil.mp hj)
  · intro i hi hcurrent
    exact h.late i (mem_of_mem_pending (mem_waiting_note_nil.mp hi)) (hcurrent.trans hepoch)

/-- A load under way stays so, is applied, fails, gives way to another or is lost to a clear. -/
theorem Underway.record (h : Underway m l) (hd : l.Dated) (hg : l.Guarded) (hm : m ≤ l.now)
    {supply : Supply} {a : Act} (allowed : l.Allows supply a) : Fate m (l.record a) := by
  have hturn := l.engine.turn a
  unfold Ledger.record
  generalize l.engine.act a = reaction at hturn ⊢
  cases hturn with
  | wait => exact .underway (h.note rfl rfl (.inl rfl))
  | idle => exact .underway (h.note rfl rfl (.inl rfl))
  | load => exact .underway (.of_load hd hm rfl rfl rfl)
  | poll polls => exact absurd polls.2.1 h.not_streaming
  | dropped => exact .underway (h.note rfl rfl (.inl rfl))
  | loaded live full =>
    have hissued := hd.waiting_issued _ (waits_of_allows allowed)
    exact .loaded (h.loadedSince hd hissued live.2 full)
  | loadFailed => exact .underway (h.note rfl rfl (.inr rfl))
  | pollFailed live poll =>
    exact absurd (hg.streaming_of_poll (waits_of_allows allowed) live poll) h.not_streaming
  | heartbeat live poll =>
    exact absurd (hg.streaming_of_poll (waits_of_allows allowed) live poll) h.not_streaming
  | merged live poll =>
    exact absurd (hg.streaming_of_poll (waits_of_allows allowed) live poll) h.not_streaming
  | clearedLate closed => exact .closed closed
  | cleared => exact .lost (.of_clear hd rfl rfl rfl)
  | closed => exact .closed rfl

/-- A lost load stays lost until another begins. -/
theorem Lost.record (h : l.Lost) (hd : l.Dated) (hm : m ≤ l.now) {supply : Supply} {a : Act}
    (allowed : l.Allows supply a) : Fate m (l.record a) := by
  have hturn := l.engine.turn a
  unfold Ledger.record
  generalize l.engine.act a = reaction at hturn ⊢
  cases hturn with
  | wait => exact .lost (h.note rfl rfl rfl)
  | idle => exact .lost (h.note rfl rfl rfl)
  | load => exact .underway (.of_load hd hm rfl rfl rfl)
  | poll polls => exact Bool.noConfusion (h.no_cursor.symm.trans polls.2.2.2)
  | dropped => exact .lost (h.note rfl rfl rfl)
  | loaded live => exact absurd live.2 (h.late _ (waits_of_allows allowed))
  | loadFailed live => exact absurd live.2 (h.late _ (waits_of_allows allowed))
  | pollFailed live => exact absurd live.2 (h.late _ (waits_of_allows allowed))
  | heartbeat live => exact absurd live.2 (h.late _ (waits_of_allows allowed))
  | merged live => exact absurd live.2 (h.late _ (waits_of_allows allowed))
  | clearedLate closed => exact .closed closed
  | cleared => exact .lost (.of_clear hd rfl rfl rfl)
  | closed => exact .closed rfl

/-- One act leads from each of the fates to one of them. -/
theorem Fate.record (h : Fate m l) (hd : l.Dated) (hg : l.Guarded) (hm : m ≤ l.now)
    {supply : Supply} {a : Act} (allowed : l.Allows supply a) : Fate m (l.record a) := by
  cases h with
  | closed closed =>
    apply Fate.closed
    rw [(record_of_closed hg closed a).2]
    exact closed
  | loaded loaded => exact .loaded loaded.note
  | underway underway => exact underway.record hd hg hm allowed
  | lost lost => exact lost.record hd hm allowed

/-- Nothing else can become of a request that began a full load, whatever happens after it. -/
theorem Run.fate {supply : Supply} {later : Ledger} (hd : l.Dated) (hg : l.Guarded)
    (hm : m ≤ l.now) (start : Fate m l) (run : Run supply l later) : Fate m later := by
  have h := run.keeps (P := fun n => n.Dated ∧ n.Guarded ∧ m ≤ n.now ∧ Fate m n)
    ⟨hd, hg, hm, start⟩ ?_
  · exact h.2.2.2
  · rintro n a ⟨hnd, hng, hnm, hfate⟩ allowed
    exact ⟨hnd.record a, hng.record hnd allowed, hnm.trans (Nat.le_succ _),
      hfate.record hnd hng hnm allowed⟩

/-- Once nothing is under way, a request either was granted, is about to be tried again, or is
lost: which of the last two is decided by whether a clear came after the last full load. -/
theorem Fate.settled (h : Fate m l) (hg : l.Guarded) (live : l.engine.phase ≠ .closed)
    (idle : l.waiting = []) :
    l.LoadedSince m ∨ (l.OutlivesClears m ∧ Request.tick.Loads l.engine) ∨
      (¬ l.OutlivesClears m ∧ l.Lost) := by
  cases h with
  | closed closed => exact absurd closed live
  | loaded loaded => exact .inl loaded
  | underway underway =>
    obtain ⟨i, hi, hkind, hmoment, hclears, -, hphase⟩ := underway
    have herror : l.engine.phase = .error := by
      apply hphase.resolve_left
      intro hloading
      obtain ⟨j, hj, -⟩ := hg.load_waits hloading
      rw [idle] at hj
      cases hj
    have hloading : l.engine.loading = false := by
      apply hg.not_loading
      rw [herror]
      exact Phase.noConfusion
    exact .inr (.inl ⟨⟨i, hi, hkind, hmoment, hclears⟩, herror, hloading⟩)
  | lost lost =>
    refine .inr (.inr ⟨?_, lost⟩)
    rintro ⟨i, hi, hkind, -, hclears⟩
    obtain ⟨c, hc, hlast⟩ := lost.cleared
    exact absurd (hclears c hc) (Nat.lt_asymm (hlast i hi hkind))

end LogTail.Ledger

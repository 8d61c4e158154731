import Mathlib.Data.List.Nodup
import LogTail.Proofs.Engine.Ledger

/-!
What an engine knows of the tickets that wait. Its two flags and its phase are kept by each act for
itself; `Guarded` ties them to the issues that wait, of this epoch and of earlier ones. At most one
poll waits at any time, and at most one ticket of the engine's epoch.
-/
namespace LogTail.Ledger

open Engine

/-- The flags, the phase and the cursor of an engine agree with the issues that wait. A poll of the
engine's epoch asks for what comes after its cursor. -/
structure Guarded (l : Ledger) : Prop where
  loading_iff : l.engine.loading = true ↔ l.engine.phase = .loading
  cursor_phase : l.engine.cursor.isAbsent = false →
    l.engine.phase = .streaming ∨ l.engine.phase = .closed
  in_flight_iff : l.engine.inFlight = true ↔ ∃ i ∈ l.waiting, i.ticket.kind = .incremental
  poll_unique : ∀ i ∈ l.waiting, ∀ j ∈ l.waiting, i.ticket.kind = .incremental →
    j.ticket.kind = .incremental → i = j
  current_unique : ∀ i ∈ l.waiting, ∀ j ∈ l.waiting, i.ticket.epoch = l.engine.epoch →
    j.ticket.epoch = l.engine.epoch → i = j
  load_waits : l.engine.phase = .loading →
    ∃ i ∈ l.waiting, i.ticket.kind = .full ∧ i.ticket.epoch = l.engine.epoch
  load_phase : ∀ i ∈ l.waiting, i.ticket.kind = .full → i.ticket.epoch = l.engine.epoch →
    l.engine.phase = .loading ∨ l.engine.phase = .closed
  poll_phase : ∀ i ∈ l.waiting, i.ticket.kind = .incremental → i.ticket.epoch = l.engine.epoch →
    l.engine.phase = .streaming ∨ l.engine.phase = .closed
  poll_asks : ∀ i ∈ l.waiting, i.ticket.kind = .incremental → i.ticket.epoch = l.engine.epoch →
    l.engine.cursor.isAbsent = false ∧ i.ticket.query = .incremental l.engine.level l.engine.cursor

namespace Guarded

variable {l : Ledger}

/-- Nothing is under way, and nothing waits. -/
theorem of_new (capacity : ℕ) (limit : Option ℕ) : (new capacity limit).Guarded where
  loading_iff := ⟨fun h => Bool.noConfusion h, fun h => Phase.noConfusion h⟩
  cursor_phase := fun h => Bool.noConfusion h
  in_flight_iff := ⟨fun h => Bool.noConfusion h, fun ⟨_, hi, _⟩ => nomatch hi⟩
  poll_unique := fun _ hi => nomatch hi
  current_unique := fun _ hi => nomatch hi
  load_waits := fun h => Phase.noConfusion h
  load_phase := fun _ hi => nomatch hi
  poll_phase := fun _ hi => nomatch hi
  poll_asks := fun _ hi => nomatch hi

/-- An act that issues nothing, answers nothing and leaves the engine as it is. -/
theorem note_same (h : l.Guarded) {a : Act} (c : Option Completion)
    (hpending : l.pending a = l.waiting) : (l.note a l.engine [] c).Guarded := by
  have hwaiting : (l.note a l.engine [] c).waiting = l.waiting := by
    change l.pending a ++ [] = l.waiting
    rw [List.append_nil, hpending]
  refine ⟨h.loading_iff, h.cursor_phase, ?_, ?_, ?_, ?_, ?_, ?_, ?_⟩ <;> rw [hwaiting]
  · exact h.in_flight_iff
  · exact h.poll_unique
  · exact h.current_unique
  · exact h.load_waits
  · exact h.load_phase
  · exact h.poll_phase
  · exact h.poll_asks

/-- The flag for polls goes down with the answer to the poll, whichever epoch that is from. -/
theorem in_flight_answered (h : l.Guarded) {i : Issue} (hi : i ∈ l.waiting)
    (result : Except Fault Page) :
    (if i.ticket.kind = .incremental then false else l.engine.inFlight) = true ↔
      ∃ j ∈ l.pending (.complete i result), j.ticket.kind = .incremental := by
  by_cases hkind : i.ticket.kind = .incremental
  · rw [if_pos hkind]
    constructor
    · exact fun hf => Bool.noConfusion hf
    · rintro ⟨j, hj, hpoll⟩
      obtain ⟨hwaits, hne⟩ := mem_pending_complete.mp hj
      exact absurd (h.poll_unique j hwaits i hi hpoll hkind) hne
  · rw [if_neg hkind, h.in_flight_iff]
    constructor
    · rintro ⟨j, hj, hpoll⟩
      have hne : j ≠ i := fun heq => hkind (heq ▸ hpoll)
      exact ⟨j, mem_pending_complete.mpr ⟨hj, hne⟩, hpoll⟩
    · rintro ⟨j, hj, hpoll⟩
      exact ⟨j, mem_of_mem_pending hj, hpoll⟩

/-- Once the only ticket of the epoch is answered, none of the epoch waits. -/
theorem epoch_ne_of_answered (h : l.Guarded) {i j : Issue} {result : Except Fault Page}
    (hi : i ∈ l.waiting) (hcurrent : i.ticket.epoch = l.engine.epoch)
    (hj : j ∈ l.pending (.complete i result)) : j.ticket.epoch ≠ l.engine.epoch := by
  intro heq
  obtain ⟨hwaits, hne⟩ := mem_pending_complete.mp hj
  exact hne (h.current_unique j hwaits i hi heq hcurrent)

/-- An answer that counts: its issue was the only one of the epoch that had waited, so nothing is
left that the flags would have to show. -/
theorem note_answer (h : l.Guarded) {i : Issue} {result : Except Fault Page} {e : Engine}
    (c : Option Completion) (hi : i ∈ l.waiting) (hcurrent : i.ticket.epoch = l.engine.epoch)
    (hepoch : e.epoch = l.engine.epoch)
    (hflight : e.inFlight = if i.ticket.kind = .incremental then false else l.engine.inFlight)
    (hloading : e.loading = false)
    (hphase : e.phase = .streaming ∨ e.phase = .error ∧ e.cursor.isAbsent = true) :
    (l.note (.complete i result) e [] c).Guarded := by
  have hwaiting {j : Issue} (hj : j ∈ (l.note (.complete i result) e [] c).waiting) :
      j ∈ l.pending (.complete i result) := mem_waiting_note_nil.mp hj
  -- so whatever is said of issues of the epoch is said of none
  have hnone {j : Issue} (hj : j ∈ (l.note (.complete i result) e [] c).waiting) :
      j.ticket.epoch ≠ e.epoch :=
    hepoch ▸ h.epoch_ne_of_answered hi hcurrent (hwaiting hj)
  have hidle : e.phase ≠ .loading := by
    rcases hphase with hp | ⟨hp, -⟩ <;> rw [hp] <;> exact Phase.noConfusion
  refine ⟨?_, ?_, ?_, ?_, ?_, ?_, ?_, ?_, ?_⟩
  · change e.loading = true ↔ e.phase = .loading
    rw [hloading]
    exact ⟨fun hf => Bool.noConfusion hf, fun hf => absurd hf hidle⟩
  · intro hcursor
    rcases hphase with hp | ⟨-, hc⟩
    · exact .inl hp
    · exact Bool.noConfusion (hcursor.symm.trans hc)
  · change e.inFlight = true ↔ _
    rw [hflight, h.in_flight_answered hi result]
    simp only [mem_waiting_note_nil]
  · intro j hj k hk
    exact h.poll_unique j (mem_of_mem_pending (hwaiting hj)) k (mem_of_mem_pending (hwaiting hk))
  · intro j hj _ _ heq
    exact absurd heq (hnone hj)
  · intro hp
    exact absurd hp hidle
  · intro j hj _ heq
    exact absurd heq (hnone hj)
  · intro j hj _ heq
    exact absurd heq (hnone hj)
  · intro j hj _ heq
    exact absurd heq (hnone hj)

/-- An answer that comes too late is taken off the list and leaves the flags to the issues that
still count. -/
theorem note_dropped (h : l.Guarded) {i : Issue} {result : Except Fault Page}
    (c : Option Completion) (hi : i ∈ l.waiting) (late : ¬ l.engine.Accepts i.ticket) :
    (l.note (.complete i result) (l.engine.released i.ticket) [] c).Guarded := by
  have hwaits {j : Issue}
      (hj : j ∈ (l.note (.complete i result) (l.engine.released i.ticket) [] c).waiting) :
      j ∈ l.waiting := mem_of_mem_pending (mem_waiting_note_nil.mp hj)
  refine ⟨h.loading_iff, h.cursor_phase, ?_, ?_, ?_, ?_, ?_, ?_, ?_⟩
  · refine (h.in_flight_answered hi result).trans ?_
    simp only [mem_waiting_note_nil]
  · intro j hj k hk
    exact h.poll_unique j (hwaits hj) k (hwaits hk)
  · intro j hj k hk
    exact h.current_unique j (hwaits hj) k (hwaits hk)
  · intro hp
    have hopen : l.engine.phase ≠ .closed := by
      rw [show l.engine.phase = .loading from hp]
      exact Phase.noConfusion
    obtain ⟨j, hj, hfull, hcurrent⟩ := h.load_waits hp
    -- the load that waits is of the epoch, so its answer would not have been dropped
    have hne : j ≠ i := by
      rintro rfl
      exact late ⟨hopen, hcurrent⟩
    exact ⟨j, mem_waiting_note_nil.mpr (mem_pending_complete.mpr ⟨hj, hne⟩), hfull, hcurrent⟩
  · intro j hj
    exact h.load_phase j (hwaits hj)
  · intro j hj
    exact h.poll_phase j (hwaits hj)
  · intro j hj
    exact h.poll_asks j (hwaits hj)

theorem streaming_of_poll (h : l.Guarded) {i : Issue} (hi : i ∈ l.waiting)
    (live : l.engine.Accepts i.ticket) (poll : i.ticket.kind = .incremental) :
    l.engine.phase = .streaming :=
  (h.poll_phase i hi poll live.2).resolve_right live.1

/-- The flag for loads is down in every phase but one. -/
theorem not_loading (h : l.Guarded) (hphase : l.engine.phase ≠ .loading) :
    l.engine.loading = false := by
  by_contra hne
  exact hphase (h.loading_iff.mp (Bool.eq_true_of_not_eq_false hne))

/-- The answer to the poll of the epoch leaves the engine streaming, whatever it brings. -/
theorem note_poll_answer (h : l.Guarded) {i : Issue} {result : Except Fault Page} {e : Engine}
    (c : Option Completion) (hi : i ∈ l.waiting) (live : l.engine.Accepts i.ticket)
    (poll : i.ticket.kind = .incremental) (hepoch : e.epoch = l.engine.epoch)
    (hflight : e.inFlight = false) (hloading : e.loading = l.engine.loading)
    (hphase : e.phase = l.engine.phase) : (l.note (.complete i result) e [] c).Guarded := by
  have hstreaming := h.streaming_of_poll hi live poll
  refine h.note_answer c hi live.2 hepoch ?_ ?_ (.inl (hphase.trans hstreaming))
  · rw [hflight, if_pos poll]
  · rw [hloading]
    apply h.not_loading
    rw [hstreaming]
    exact Phase.noConfusion

/-- A full load begins: its ticket is the only one of the new epoch. -/
theorem note_load (h : l.Guarded) (hd : l.Dated) {r : Request} {e : Engine} {t : Ticket}
    (hepoch : e.epoch = l.engine.epoch + 1) (ht : t.epoch = e.epoch) (hfull : t.kind = .full)
    (hflight : e.inFlight = l.engine.inFlight) (hloading : e.loading = true)
    (hphase : e.phase = .loading) (hcursor : e.cursor.isAbsent = true) :
    (l.note (.ask r) e [t] none).Guarded := by
  have hold {i : Issue} (hi : i ∈ l.waiting) : i.ticket.epoch ≠ e.epoch :=
    hd.epoch_ne_of_opened hepoch (hd.waiting_issued i hi)
  have hpoll {i : Issue} (hi : i ∈ (l.note (.ask r) e [t] none).waiting)
      (hkind : i.ticket.kind = .incremental) : i ∈ l.waiting := by
    rcases mem_waiting_note_single.mp hi with hi | rfl
    · exact hi
    · exact FetchKind.noConfusion (hfull.symm.trans hkind)
  refine ⟨?_, ?_, ?_, ?_, ?_, ?_, ?_, ?_, ?_⟩
  · exact ⟨fun _ => hphase, fun _ => hloading⟩
  · intro hc
    exact Bool.noConfusion (hc.symm.trans hcursor)
  · change e.inFlight = true ↔ _
    rw [hflight, h.in_flight_iff]
    constructor
    · rintro ⟨i, hi, hkind⟩
      exact ⟨i, mem_waiting_note_single.mpr (.inl hi), hkind⟩
    · rintro ⟨i, hi, hkind⟩
      exact ⟨i, hpoll hi hkind, hkind⟩
  · intro i hi j hj hki hkj
    exact h.poll_unique i (hpoll hi hki) j (hpoll hj hkj) hki hkj
  · intro i hi j hj hci hcj
    rcases mem_waiting_note_single.mp hi with hi | rfl
    · exact absurd hci (hold hi)
    rcases mem_waiting_note_single.mp hj with hj | rfl
    · exact absurd hcj (hold hj)
    · rfl
  · intro _
    exact ⟨⟨l.now, t⟩, mem_waiting_note_single.mpr (.inr rfl), hfull, ht⟩
  · intro _ _ _ _
    exact .inl hphase
  · intro i hi hkind hcurrent
    exact absurd hcurrent (hold (hpoll hi hkind))
  · intro i hi hkind hcurrent
    exact absurd hcurrent (hold (hpoll hi hkind))

/-- A poll begins: no other poll waits, and no ticket of the epoch either. -/
theorem note_poll (h : l.Guarded) (polls : Request.tick.Polls l.engine) :
    (l.note (.ask .tick) { l.engine with inFlight := true }
      [⟨l.engine.epoch, .incremental, .incremental l.engine.level l.engine.cursor⟩]
      none).Guarded := by
  obtain ⟨-, hphase, hfree, hcursor⟩ := polls
  have hnopoll {i : Issue} (hi : i ∈ l.waiting) : i.ticket.kind ≠ .incremental := by
    intro hkind
    exact Bool.noConfusion (hfree.symm.trans (h.in_flight_iff.mpr ⟨i, hi, hkind⟩))
  -- a load of the epoch that still waited would show in the phase
  have hnone {i : Issue} (hi : i ∈ l.waiting) : i.ticket.epoch ≠ l.engine.epoch := by
    intro hcurrent
    cases hkind : i.ticket.kind with
    | incremental => exact hnopoll hi hkind
    | full =>
      have hp := h.load_phase i hi hkind hcurrent
      rw [hphase] at hp
      exact hp.elim Phase.noConfusion Phase.noConfusion
  refine ⟨h.loading_iff, h.cursor_phase, ?_, ?_, ?_, ?_, ?_, ?_, ?_⟩
  · exact ⟨fun _ => ⟨_, mem_waiting_note_single.mpr (.inr rfl), rfl⟩, fun _ => rfl⟩
  · intro i hi j hj hki hkj
    rcases mem_waiting_note_single.mp hi with hi | rfl
    · exact absurd hki (hnopoll hi)
    rcases mem_waiting_note_single.mp hj with hj | rfl
    · exact absurd hkj (hnopoll hj)
    · rfl
  · intro i hi j hj hci hcj
    rcases mem_waiting_note_single.mp hi with hi | rfl
    · exact absurd hci (hnone hi)
    rcases mem_waiting_note_single.mp hj with hj | rfl
    · exact absurd hcj (hnone hj)
    · rfl
  · intro hp
    exact Phase.noConfusion (hphase.symm.trans hp)
  · intro i hi hkind hcurrent
    rcases mem_waiting_note_single.mp hi with hi | rfl
    · exact absurd hcurrent (hnone hi)
    · exact FetchKind.noConfusion hkind
  · intro _ _ _ _
    exact .inl hphase
  · intro i hi _ hcurrent
    rcases mem_waiting_note_single.mp hi with hi | rfl
    · exact absurd hcurrent (hnone hi)
    · exact ⟨hcursor, rfl⟩

/-- A clear opens an epoch of which no ticket waits. -/
theorem note_clear (h : l.Guarded) (hd : l.Dated) {e : Engine} (c : Option Completion)
    (hepoch : e.epoch = l.engine.epoch + 1) (hflight : e.inFlight = l.engine.inFlight)
    (hloading : e.loading = false) (hphase : e.phase = .streaming)
    (hcursor : e.cursor.isAbsent = true) : (l.note .clearSucceeded e [] c).Guarded := by
  have hwaits {i : Issue} (hi : i ∈ (l.note .clearSucceeded e [] c).waiting) : i ∈ l.waiting :=
    mem_waiting_note_nil.mp hi
  have hnone {i : Issue} (hi : i ∈ (l.note .clearSucceeded e [] c).waiting) :
      i.ticket.epoch ≠ e.epoch :=
    hd.epoch_ne_of_opened hepoch (hd.waiting_issued i (hwaits hi))
  have hidle : e.phase ≠ .loading := by
    rw [hphase]
    exact Phase.noConfusion
  refine ⟨?_, ?_, ?_, ?_, ?_, ?_, ?_, ?_, ?_⟩
  · change e.loading = true ↔ e.phase = .loading
    rw [hloading]
    exact ⟨fun hf => Bool.noConfusion hf, fun hf => absurd hf hidle⟩
  · intro hc
    exact Bool.noConfusion (hc.symm.trans hcursor)
  · change e.inFlight = true ↔ _
    rw [hflight, h.in_flight_iff]
    simp only [mem_waiting_note_nil, pending]
  · intro i hi j hj
    exact h.poll_unique i (hwaits hi) j (hwaits hj)
  · intro i hi _ _ hcurrent
    exact absurd hcurrent (hnone hi)
  · intro hp
    exact absurd hp hidle
  · intro i hi _ hcurrent
    exact absurd hcurrent (hnone hi)
  · intro i hi _ hcurrent
    exact absurd hcurrent (hnone hi)
  · intro i hi _ hcurrent
    exact absurd hcurrent (hnone hi)

/-- The end of the session leaves all issues waiting for answers that will be dropped. -/
theorem note_close (h : l.Guarded) (c : Option Completion) :
    (l.note .close { l.engine with phase := .closed, loading := false } [] c).Guarded := by
  have hwaits {i : Issue}
      (hi : i ∈ (l.note .close { l.engine with phase := .closed, loading := false } [] c).waiting) :
      i ∈ l.waiting := mem_waiting_note_nil.mp hi
  refine ⟨?_, fun _ => .inr rfl, ?_, ?_, ?_, ?_, fun _ _ _ _ => .inr rfl, fun _ _ _ _ => .inr rfl,
    ?_⟩
  · exact ⟨fun hf => Bool.noConfusion hf, fun hf => Phase.noConfusion hf⟩
  · refine h.in_flight_iff.trans ?_
    simp only [mem_waiting_note_nil, pending]
  · intro i hi j hj
    exact h.poll_unique i (hwaits hi) j (hwaits hj)
  · intro i hi j hj
    exact h.current_unique i (hwaits hi) j (hwaits hj)
  · exact fun hp => Phase.noConfusion hp
  · intro i hi
    exact h.poll_asks i (hwaits hi)

/-- One act keeps the flags in step with the issues that wait. -/
theorem record (h : l.Guarded) (hd : l.Dated) {supply : Supply} {a : Act}
    (allowed : l.Allows supply a) : (l.record a).Guarded := by
  have hturn := l.engine.turn a
  unfold Ledger.record
  generalize l.engine.act a = reaction at hturn ⊢
  cases hturn with
  | wait => exact h.note_same none rfl
  | idle => exact h.note_same none rfl
  | load => exact h.note_load hd rfl rfl rfl rfl rfl rfl rfl
  | poll polls => exact h.note_poll polls
  | dropped late => exact h.note_dropped _ (waits_of_allows allowed) late
  | loaded live full =>
    exact h.note_answer _ (waits_of_allows allowed) live.2 rfl
      (by rw [full]; rfl) rfl (.inl rfl)
  | loadFailed live full =>
    have hwaits := waits_of_allows allowed
    have hphase : l.engine.phase = .loading :=
      (h.load_phase _ hwaits full live.2).resolve_right live.1
    -- only a streaming engine has a cursor, and this one was loading
    have hcursor : l.engine.cursor.isAbsent = true := by
      by_contra hne
      have hp := h.cursor_phase (Bool.eq_false_of_not_eq_true hne)
      rw [hphase] at hp
      exact hp.elim Phase.noConfusion Phase.noConfusion
    exact h.note_answer _ hwaits live.2 rfl (by rw [full]; rfl) rfl (.inr ⟨rfl, hcursor⟩)
  | pollFailed live poll => exact h.note_poll_answer _ (waits_of_allows allowed) live poll rfl rfl rfl rfl
  | heartbeat live poll => exact h.note_poll_answer _ (waits_of_allows allowed) live poll rfl rfl rfl rfl
  | merged live poll => exact h.note_poll_answer _ (waits_of_allows allowed) live poll rfl rfl rfl rfl
  | clearedLate => exact h.note_same none rfl
  | cleared => exact h.note_clear hd none rfl rfl rfl rfl rfl
  | closed => exact h.note_close none

end Guarded

theorem Run.guarded {supply : Supply} {capacity : ℕ} {limit : Option ℕ} {l : Ledger}
    (run : Run supply (new capacity limit) l) : l.Guarded := by
  have h := run.keeps (P := fun m => m.Dated ∧ m.Guarded)
    ⟨.of_new capacity limit, .of_new capacity limit⟩
    fun _ a ⟨hd, hg⟩ allowed => ⟨hd.record a, hg.record hd allowed⟩
  exact h.2

/-- No issue waits twice, for each was issued at a moment of its own. -/
theorem nodup_waiting_record {l : Ledger} (hd : l.Dated) (h : l.waiting.Nodup) (a : Act) :
    (l.record a).waiting.Nodup := by
  have hpending : (l.pending a).Nodup := by
    cases a with
    | complete _ _ => exact h.filter _
    | _ => exact h
  have hnew : (l.dated (l.engine.act a).ticket.toList).Nodup := by
    cases (l.engine.act a).ticket with
    | none => exact List.nodup_nil
    | some t => exact List.nodup_singleton _
  refine hpending.append hnew ?_
  intro i hold hi
  have hpast : i.moment < l.now :=
    hd.issued_past i (hd.waiting_issued i (mem_of_mem_pending hold))
  obtain ⟨t, -, rfl⟩ := List.mem_map.mp hi
  exact Nat.lt_irrefl _ hpast

theorem Run.nodup_waiting {supply : Supply} {capacity : ℕ} {limit : Option ℕ} {l : Ledger}
    (run : Run supply (new capacity limit) l) : l.waiting.Nodup := by
  have h := run.keeps (P := fun m => m.Dated ∧ m.waiting.Nodup)
    ⟨.of_new capacity limit, List.nodup_nil⟩
    fun _ a ⟨hd, hn⟩ _ => ⟨hd.record a, nodup_waiting_record hd hn a⟩
  exact h.2

theorem length_filter_le_one {α : Type*} {p : α → Bool} {xs : List α} (hn : xs.Nodup)
    (h : ∀ x ∈ xs, ∀ y ∈ xs, p x = true → p y = true → x = y) : (xs.filter p).length ≤ 1 := by
  have hmem {x : α} (hx : x ∈ xs.filter p) : x ∈ xs ∧ p x = true := List.mem_filter.mp hx
  have hn' : (xs.filter p).Nodup := hn.filter p
  match hxs : xs.filter p with
  | [] => exact Nat.zero_le 1
  | [_] => exact Nat.le_refl 1
  | x :: y :: rest =>
    rw [hxs] at hmem hn'
    obtain ⟨hx, hpx⟩ := hmem List.mem_cons_self
    obtain ⟨hy, hpy⟩ := hmem (List.mem_cons_of_mem x List.mem_cons_self)
    -- the two would be one issue, which is there only once
    have hne : x ≠ y := List.ne_of_not_mem_cons (List.nodup_cons.mp hn').1
    exact absurd (h x hx y hy hpx hpy) hne

/-- The flag for polls counts the polls that wait. -/
theorem Guarded.length_polls {l : Ledger} (h : l.Guarded) (hn : l.waiting.Nodup) :
    (l.waiting.filter (·.ticket.kind = .incremental)).length =
      if l.engine.inFlight then 1 else 0 := by
  have hle : (l.waiting.filter (·.ticket.kind = .incremental)).length ≤ 1 := by
    apply length_filter_le_one hn
    intro i hi j hj hki hkj
    exact h.poll_unique i hi j hj (of_decide_eq_true hki) (of_decide_eq_true hkj)
  have hpos : 0 < (l.waiting.filter (·.ticket.kind = .incremental)).length ↔
      l.engine.inFlight = true := by
    simp only [h.in_flight_iff, List.length_pos_iff_exists_mem, List.mem_filter,
      decide_eq_true_eq]
  split
  case isTrue hflight =>
    have := hpos.mpr hflight
    omega
  case isFalse hflight =>
    have := mt hpos.mp hflight
    omega

/-- At most one issue of the engine's epoch waits. -/
theorem Guarded.length_current {l : Ledger} (h : l.Guarded) (hn : l.waiting.Nodup) :
    (l.waiting.filter (·.ticket.epoch = l.engine.epoch)).length ≤ 1 := by
  apply length_filter_le_one hn
  intro i hi j hj hci hcj
  exact h.current_unique i hi j hj (of_decide_eq_true hci) (of_decide_eq_true hcj)

/-- The engine is loading exactly as long as the full load of its epoch waits and the session has
not ended. -/
theorem Guarded.phase_loading_iff {l : Ledger} (h : l.Guarded) :
    l.engine.phase = .loading ↔ l.engine.phase ≠ .closed ∧
      ∃ i ∈ l.waiting, i.ticket.kind = .full ∧ i.ticket.epoch = l.engine.epoch := by
  constructor
  · intro hphase
    refine ⟨?_, h.load_waits hphase⟩
    rw [hphase]
    exact Phase.noConfusion
  · rintro ⟨hopen, i, hi, hfull, hcurrent⟩
    exact (h.load_phase i hi hfull hcurrent).resolve_right hopen

/-- The flags of an engine count what waits, as long as each ticket is answered at most once. One
poll waits while the flag for polls is up, and none while it is down. The flag for loads, the phase
and the full load of the engine's epoch go together until the session ends. At most one ticket of
the epoch waits, and there is a cursor in two phases only. -/
theorem flags_count_waiting {capacity : ℕ} {limit : Option ℕ} {l : Ledger}
    (run : Run anything (new capacity limit) l) :
    (l.waiting.filter (·.ticket.kind = .incremental)).length =
      (if l.engine.inFlight then 1 else 0) ∧
    (l.engine.loading = true ↔ l.engine.phase = .loading) ∧
    (l.engine.phase = .loading ↔ l.engine.phase ≠ .closed ∧
      ∃ i ∈ l.waiting, i.ticket.kind = .full ∧ i.ticket.epoch = l.engine.epoch) ∧
    (l.waiting.filter (·.ticket.epoch = l.engine.epoch)).length ≤ 1 ∧
    (l.engine.cursor.isAbsent = false →
      l.engine.phase = .streaming ∨ l.engine.phase = .closed) := by
  have hg := run.guarded
  have hn := run.nodup_waiting
  exact ⟨hg.length_polls hn, hg.loading_iff, hg.phase_loading_iff, hg.length_current hn,
    hg.cursor_phase⟩

/-- A poll that is under way when everything is asked for anew, twice, and when the log is cleared
in between. -/
def overlappedPoll : List Act :=
  [.ask (.start none),
    .complete ⟨0, 1, .full, .full none none⟩ (.ok ⟨[], .ofToken "t1"⟩),
    .ask .tick,
    .ask .reload,
    .clearSucceeded,
    .ask .reload]

/-- Three tickets of three epochs wait then. One of them is a poll, and one is of the epoch. -/
theorem flags_count_waiting_overlapped :
    Run anything (new 2 none) ((new 2 none).replay overlappedPoll) ∧
    ((new 2 none).replay overlappedPoll).waiting.length = 3 ∧
    (((new 2 none).replay overlappedPoll).waiting.filter
      (·.ticket.kind = .incremental)).length = 1 ∧
    ((new 2 none).replay overlappedPoll).engine.phase = .loading := by
  have run : Run anything (new 2 none) ((new 2 none).replay overlappedPoll) :=
    .of_valid ⟨trivial, ⟨by decide, trivial⟩, trivial, trivial, trivial, trivial, trivial⟩
  obtain ⟨hpolls, -, hloading, -⟩ := flags_count_waiting run
  refine ⟨run, by decide, hpolls, hloading.mpr ⟨by decide, ?_⟩⟩
  exact ⟨⟨5, 4, .full, .full none none⟩, by decide, rfl, rfl⟩

end LogTail.Ledger

import LogTail.Proofs.Engine.Baseline
import LogTail.Proofs.Engine.Staleness

/-!
The cursor as the latest position of its epoch. A page counts if it took the place of all records, was
added to them or was found to bring none; the positions of those pages, of the full load and of all
polls after it, are gone through one after another. So the cursor is the latest of them, and within an
epoch neither it nor what polls ask for goes back, whatever positions a service answers with.
-/
namespace LogTail

open Engine

def Receipt.position? (r : Receipt) : Option Cursor :=
  match r.result, r.completion with
  | .ok page, .replaced _ => some page.next
  | .ok page, .appended _ _ => some page.next
  | .ok page, .unchanged => some page.next
  | _, _ => none

namespace Ledger

/-- The positions of the pages that counted in the engine's epoch, the first first. -/
def positions (l : Ledger) : List Cursor :=
  (l.receipts.filter (·.issue.ticket.epoch = l.engine.epoch)).filterMap Receipt.position?

/-- The cursor is where the positions of the epoch lead to, and no poll of the epoch asks for what
comes after a later one. -/
structure Advancing (l : Ledger) : Prop where
  receipts_past : ∀ r ∈ l.receipts, r.issue.ticket.epoch ≤ l.engine.epoch
  cursor_eq : l.engine.cursor = l.positions.foldl .advance .absent
  begun : l.engine.cursor.isAbsent = false → ∃ page, l.Baseline page
  polls_behind : ∀ i ∈ l.issued, i.ticket.kind = .incremental → i.ticket.epoch = l.engine.epoch →
    i.ticket.query.since.place ≤ l.engine.cursor.place
  polls_rise : (l.issued.filter (·.ticket.kind = .incremental)).Pairwise
    fun i j => i.ticket.epoch = j.ticket.epoch →
      i.ticket.query.since.place ≤ j.ticket.query.since.place

variable {l m : Ledger}

theorem Baseline.position_mem {page : Page} (h : l.Baseline page) : page.next ∈ l.positions := by
  obtain ⟨r, hr, hcurrent, hok, hreplaced⟩ := h
  refine List.mem_filterMap.mpr ⟨r, List.mem_filter.mpr ⟨hr, decide_eq_true hcurrent⟩, ?_⟩
  rw [Receipt.position?, hok, hreplaced]

/-- The positions of an epoch grow by that of the answer, if it counted. -/
theorem positions_note {a : Act} {e : Engine} {tickets : List Ticket} {c : Option Completion}
    (hepoch : e.epoch = l.engine.epoch) :
    (l.note a e tickets c).positions = l.positions ++
      ((l.receipt c a).filter (·.issue.ticket.epoch = l.engine.epoch)).filterMap
        Receipt.position? := by
  change ((l.receipts ++ l.receipt c a).filter (·.issue.ticket.epoch = e.epoch)).filterMap
    Receipt.position? = _
  rw [hepoch, List.filter_append, List.filterMap_append]
  rfl

/-- A cursor that is still to be loaded is absent. -/
theorem Guarded.cursor_of_loading (h : l.Guarded) {i : Issue} (hi : i ∈ l.waiting)
    (live : l.engine.Accepts i.ticket) (full : i.ticket.kind = .full) :
    l.engine.cursor = .absent := by
  have hphase : l.engine.phase = .loading := (h.load_phase i hi full live.2).resolve_right live.1
  apply Cursor.eq_absent_of_isAbsent
  by_contra hne
  rcases h.cursor_phase (Bool.eq_false_of_not_eq_true hne) with hp | hp
  · exact Phase.noConfusion (hphase.symm.trans hp)
  · exact live.1 hp

/-- Within an epoch the cursor does not go back. -/
theorem Guarded.cursor_rises (h : l.Guarded) {supply : Supply} {a : Act}
    (allowed : l.Allows supply a) (hepoch : (l.record a).engine.epoch = l.engine.epoch) :
    l.engine.cursor.place ≤ (l.record a).engine.cursor.place := by
  have hturn := l.engine.turn a
  unfold Ledger.record note at hepoch ⊢
  generalize l.engine.act a = reaction at hturn hepoch ⊢
  cases hturn with
  | load => exact absurd hepoch (Nat.succ_ne_self _)
  | cleared => exact absurd hepoch (Nat.succ_ne_self _)
  | loaded live full =>
    rw [h.cursor_of_loading (waits_of_allows allowed) live full]
    exact bot_le
  | heartbeat =>
    rw [Cursor.place_advance]
    exact le_max_left _ _
  | merged =>
    rw [Cursor.place_advance]
    exact le_max_left _ _
  | _ => exact le_refl _

/-- As long as the epoch lasts, the cursor does not go back. -/
theorem Run.cursor_rises {supply : Supply} (hd : l.Dated) (hg : l.Guarded)
    (run : Run supply l m) (hepoch : m.engine.epoch = l.engine.epoch) :
    l.engine.cursor.place ≤ m.engine.cursor.place := by
  have h := run.keeps (P := fun n => n.Dated ∧ n.Guarded ∧ l.engine.epoch ≤ n.engine.epoch ∧
    (n.engine.epoch = l.engine.epoch → l.engine.cursor.place ≤ n.engine.cursor.place))
    ⟨hd, hg, le_refl _, fun _ => le_refl _⟩ ?_
  · exact h.2.2.2 hepoch
  · rintro n a ⟨hnd, hng, hle, hrises⟩ allowed
    have hstep := n.epoch_le_record a
    refine ⟨hnd.record a, hng.record hnd allowed, hle.trans hstep, ?_⟩
    intro hlast
    -- no epoch has passed in between, since none ever comes back
    have hbefore : n.engine.epoch = l.engine.epoch := by omega
    exact (hrises hbefore).trans (hng.cursor_rises allowed (hlast.trans hbefore.symm))

namespace Advancing

theorem of_new (capacity : ℕ) (limit : Option ℕ) : (new capacity limit).Advancing where
  receipts_past := fun _ hr => nomatch hr
  cursor_eq := rfl
  begun := fun h => Bool.noConfusion h
  polls_behind := fun _ hi => nomatch hi
  polls_rise := .nil

/-- No receipt is of an epoch still to come. -/
theorem receipts_past_note (h : l.Advancing) {a : Act} {e : Engine} {tickets : List Ticket}
    {c : Option Completion} (hle : l.engine.epoch ≤ e.epoch)
    (hreceipt : ∀ r ∈ l.receipt c a, r.issue.ticket.epoch ≤ l.engine.epoch) :
    ∀ r ∈ (l.note a e tickets c).receipts, r.issue.ticket.epoch ≤ e.epoch := by
  intro r hr
  rcases List.mem_append.mp hr with hr | hr
  · exact (h.receipts_past r hr).trans hle
  · exact (hreceipt r hr).trans hle

/-- Polls that are issued now ask from the cursor as it is, which no earlier poll of the epoch is
ahead of. -/
theorem polls_rise_note (h : l.Advancing) {a : Act} {e : Engine} {tickets : List Ticket}
    {c : Option Completion} (hnew : ∀ t ∈ tickets, t.kind = .incremental →
      t.epoch = l.engine.epoch ∧ t.query.since = l.engine.cursor) :
    ((l.note a e tickets c).issued.filter (·.ticket.kind = .incremental)).Pairwise
      fun i j => i.ticket.epoch = j.ticket.epoch →
        i.ticket.query.since.place ≤ j.ticket.query.since.place := by
  have hasks {i : Issue} (hi : i ∈ (l.dated tickets).filter (·.ticket.kind = .incremental)) :
      i.ticket.epoch = l.engine.epoch ∧ i.ticket.query.since = l.engine.cursor := by
    obtain ⟨hi, hkind⟩ := List.mem_filter.mp hi
    obtain ⟨t, ht, rfl⟩ := List.mem_map.mp hi
    exact hnew t ht (of_decide_eq_true hkind)
  rw [note, List.filter_append, List.pairwise_append]
  refine ⟨h.polls_rise, ?_, ?_⟩
  · refine List.pairwise_of_forall_mem_list ?_
    intro i hi j hj _
    rw [(hasks hi).2, (hasks hj).2]
  · intro i hi j hj hepoch
    obtain ⟨hissued, hkind⟩ := List.mem_filter.mp hi
    rw [(hasks hj).2]
    exact h.polls_behind i hissued (of_decide_eq_true hkind) (hepoch.trans (hasks hj).1)

/-- An act with which no page comes to count, in the same epoch. -/
theorem note_kept (h : l.Advancing) {a : Act} {e : Engine} {tickets : List Ticket}
    {c : Option Completion} (hepoch : e.epoch = l.engine.epoch)
    (hcursor : e.cursor = l.engine.cursor)
    (hreceipt : ∀ r ∈ l.receipt c a, r.issue.ticket.epoch ≤ l.engine.epoch ∧ r.position? = none)
    (hnew : ∀ t ∈ tickets, t.epoch = l.engine.epoch ∧ t.query.since = l.engine.cursor) :
    (l.note a e tickets c).Advancing := by
  refine ⟨?_, ?_, ?_, ?_, h.polls_rise_note fun t ht _ => hnew t ht⟩
  · exact h.receipts_past_note hepoch.ge fun r hr => (hreceipt r hr).1
  · have hnone : ((l.receipt c a).filter (·.issue.ticket.epoch = l.engine.epoch)).filterMap
        Receipt.position? = [] := by
      apply List.filterMap_eq_nil_iff.mpr
      intro r hr
      exact (hreceipt r (List.mem_of_mem_filter hr)).2
    rw [positions_note hepoch, hnone, List.append_nil]
    exact hcursor.trans h.cursor_eq
  · intro hpresent
    have hpresent' : l.engine.cursor.isAbsent = false := hcursor ▸ hpresent
    obtain ⟨page, hpage⟩ := h.begun hpresent'
    exact ⟨page, hpage.note hepoch⟩
  · intro i hi hkind hcurrent
    change i.ticket.query.since.place ≤ e.cursor.place
    rw [hcursor]
    rcases List.mem_append.mp hi with hi | hi
    · exact h.polls_behind i hi hkind (hcurrent.trans hepoch)
    · obtain ⟨t, ht, rfl⟩ := List.mem_map.mp hi
      rw [(hnew t ht).2]

/-- An act that opens an epoch: there is no page yet that counts, and no poll. -/
theorem note_opened (h : l.Advancing) (hd : l.Dated) {a : Act} {e : Engine}
    {tickets : List Ticket} (hepoch : e.epoch = l.engine.epoch + 1) (hcursor : e.cursor = .absent)
    (hreceipt : l.receipt none a = []) (hkind : ∀ t ∈ tickets, t.kind = .full) :
    (l.note a e tickets none).Advancing := by
  have hpast : ∀ r ∈ l.receipt none a, r.issue.ticket.epoch ≤ l.engine.epoch := by
    rw [hreceipt]
    exact fun _ hr => nomatch hr
  -- all receipts are of epochs before the one that is opened
  have hnone : (l.note a e tickets none).positions = [] := by
    change ((l.receipts ++ l.receipt none a).filter (·.issue.ticket.epoch = e.epoch)).filterMap
      Receipt.position? = []
    rw [hreceipt, List.append_nil, List.filter_eq_nil_iff.mpr, List.filterMap_nil]
    intro r hr
    have hle := h.receipts_past r hr
    rw [decide_eq_true_eq]
    omega
  have hnopoll {t : Ticket} (ht : t ∈ tickets) : t.kind ≠ .incremental := by
    rw [hkind t ht]
    exact FetchKind.noConfusion
  refine ⟨?_, ?_, ?_, ?_, ?_⟩
  · exact h.receipts_past_note (by omega) hpast
  · rw [hnone]
    exact hcursor
  · intro hpresent
    have hpresent' : e.cursor.isAbsent = false := hpresent
    rw [hcursor] at hpresent'
    exact Bool.noConfusion hpresent'
  · intro i hi hpoll hcurrent
    rcases List.mem_append.mp hi with hi | hi
    · exact absurd hcurrent (hd.epoch_ne_of_opened hepoch hi)
    · obtain ⟨t, ht, rfl⟩ := List.mem_map.mp hi
      exact absurd hpoll (hnopoll ht)
  · exact h.polls_rise_note fun t ht hpoll => absurd hpoll (hnopoll ht)

/-- A page that counts takes the cursor on to its own position, if that is later. -/
theorem note_counted (h : l.Advancing) {i : Issue} {page : Page} {e : Engine} {c : Completion}
    (hcurrent : i.ticket.epoch = l.engine.epoch) (hepoch : e.epoch = l.engine.epoch)
    (hcursor : e.cursor = l.engine.cursor.advance page.next)
    (hposition : Receipt.position? ⟨l.now, i, .ok page, c⟩ = some page.next)
    (hbegun : ∃ first, (l.note (.complete i (.ok page)) e [] (some c)).Baseline first) :
    (l.note (.complete i (.ok page)) e [] (some c)).Advancing := by
  have hreceipt : l.receipt (some c) (.complete i (.ok page)) = [⟨l.now, i, .ok page, c⟩] := rfl
  refine ⟨?_, ?_, fun _ => hbegun, ?_, h.polls_rise_note fun _ ht => nomatch ht⟩
  · refine h.receipts_past_note hepoch.ge ?_
    intro r hr
    rw [mem_receipt_complete hr]
    exact hcurrent.le
  · rw [positions_note hepoch, hreceipt, List.filter_singleton, decide_eq_true hcurrent,
      cond_true, List.filterMap_cons, hposition, List.filterMap_nil, List.foldl_append, ← h.cursor_eq]
    exact hcursor
  · intro j hj hkind hlate
    have hj' : j ∈ l.issued := mem_issued_note_nil.mp hj
    change j.ticket.query.since.place ≤ e.cursor.place
    rw [hcursor, Cursor.place_advance]
    exact (h.polls_behind j hj' hkind (hlate.trans hepoch)).trans (le_max_left _ _)

/-- A poll that is answered takes the cursor to the later of two positions, which its own position
is one of. -/
theorem note_polled (h : l.Advancing) (hg : l.Guarded) {i : Issue} {page : Page} {e : Engine}
    {c : Completion} (hi : i ∈ l.waiting) (live : l.engine.Accepts i.ticket)
    (poll : i.ticket.kind = .incremental) (hepoch : e.epoch = l.engine.epoch)
    (hcursor : e.cursor = l.engine.cursor.advance page.next)
    (hposition : Receipt.position? ⟨l.now, i, .ok page, c⟩ = some page.next) :
    (l.note (.complete i (.ok page)) e [] (some c)).Advancing := by
  -- the poll had a cursor to ask from, so the epoch had its full load
  obtain ⟨hpresent, -⟩ := hg.poll_asks i hi poll live.2
  obtain ⟨first, hfirst⟩ := h.begun hpresent
  exact h.note_counted live.2 hepoch hcursor hposition ⟨first, hfirst.note hepoch⟩

/-- What brings no position leaves the cursor where it is. -/
theorem note_quiet (h : l.Advancing) {a : Act} {e : Engine} {c : Option Completion}
    (hepoch : e.epoch = l.engine.epoch) (hcursor : e.cursor = l.engine.cursor)
    (hreceipt : ∀ r ∈ l.receipt c a,
      r.issue.ticket.epoch ≤ l.engine.epoch ∧ r.position? = none) :
    (l.note a e [] c).Advancing :=
  h.note_kept hepoch hcursor hreceipt fun _ ht => nomatch ht

/-- One act keeps the cursor where the positions of the epoch lead to. -/
theorem record (h : l.Advancing) (hd : l.Dated) (hg : l.Guarded) {supply : Supply} {a : Act}
    (allowed : l.Allows supply a) : (l.record a).Advancing := by
  have hturn := l.engine.turn a
  have hunanswered {a : Act} (ha : l.receipt none a = []) :
      ∀ r ∈ l.receipt none a, r.issue.ticket.epoch ≤ l.engine.epoch ∧ r.position? = none := by
    rw [ha]
    exact fun _ hr => nomatch hr
  -- an answer that is reported as dropped or failed does not count, whatever it brought
  have huncounted {i : Issue} {result : Except Fault Page} {c : Completion}
      (hi : l.Allows supply (.complete i result))
      (hc : Receipt.position? ⟨l.now, i, result, c⟩ = none) :
      ∀ r ∈ l.receipt (some c) (.complete i result),
        r.issue.ticket.epoch ≤ l.engine.epoch ∧ r.position? = none := by
    intro r hr
    rw [mem_receipt_complete hr]
    exact ⟨hd.epoch_le i (hd.waiting_issued i (waits_of_allows hi)), hc⟩
  unfold Ledger.record
  generalize l.engine.act a = reaction at hturn ⊢
  cases hturn with
  | wait => exact h.note_quiet rfl rfl (hunanswered rfl)
  | idle => exact h.note_quiet rfl rfl (hunanswered rfl)
  | load =>
    refine h.note_opened hd rfl rfl rfl ?_
    intro t ht
    rw [List.mem_singleton.mp ht]
  | poll =>
    refine h.note_kept rfl rfl (hunanswered rfl) ?_
    intro t ht
    rw [List.mem_singleton.mp ht]
    exact ⟨rfl, rfl⟩
  | @dropped i result =>
    exact h.note_quiet rfl rfl (huncounted allowed (by cases result <;> rfl))
  | @loaded i page live full =>
    have hcursor : page.next = l.engine.cursor.advance page.next := by
      rw [hg.cursor_of_loading (waits_of_allows allowed) live full, Cursor.absent_advance]
    refine h.note_counted live.2 rfl hcursor rfl ⟨page, ⟨l.now, i, .ok page, _⟩, ?_, live.2, rfl, rfl⟩
    exact List.mem_append_right _ (List.mem_singleton.mpr rfl)
  | loadFailed => exact h.note_quiet rfl rfl (huncounted allowed rfl)
  | @pollFailed i result =>
    exact h.note_quiet rfl rfl (huncounted allowed (by cases result <;> rfl))
  | heartbeat live poll =>
    exact h.note_polled hg (waits_of_allows allowed) live poll rfl rfl rfl
  | merged live poll =>
    exact h.note_polled hg (waits_of_allows allowed) live poll rfl rfl rfl
  | clearedLate => exact h.note_quiet rfl rfl (hunanswered rfl)
  | cleared => exact h.note_opened hd rfl rfl rfl fun _ ht => nomatch ht
  | closed => exact h.note_quiet rfl rfl (hunanswered rfl)

end Advancing

theorem Run.advancing {supply : Supply} {capacity : ℕ} {limit : Option ℕ}
    (run : Run supply (new capacity limit) l) : l.Advancing := by
  have h := run.keeps (P := fun n => n.Dated ∧ n.Guarded ∧ n.Advancing)
    ⟨.of_new capacity limit, .of_new capacity limit, .of_new capacity limit⟩
    fun _ a ⟨hd, hg, ha⟩ allowed => ⟨hd.record a, hg.record hd allowed, ha.record hd hg allowed⟩
  exact h.2.2

/-- The cursor is the latest position of its epoch. There is none before the full load of the epoch has
come. After it the cursor is one of the positions of the pages that counted, that of the full load
among them, and none of them is later; so as long as the epoch lasts the cursor does not go back, and
neither does what one poll after another asks for. -/
theorem cursor_is_latest_position {capacity : ℕ} {limit : Option ℕ}
    (run : Run anything (new capacity limit) l) :
    ((¬ ∃ page, l.Baseline page) → l.engine.cursor = .absent) ∧
    (∀ page, l.Baseline page →
      page.next ∈ l.positions ∧ l.engine.cursor ∈ l.positions ∧
      ∀ c ∈ l.positions, c.place ≤ l.engine.cursor.place) ∧
    (∀ m, Run anything l m → m.engine.epoch = l.engine.epoch →
      l.engine.cursor.place ≤ m.engine.cursor.place) ∧
    (l.issued.filter (·.ticket.kind = .incremental)).Pairwise
      fun i j => i.ticket.epoch = j.ticket.epoch →
        i.ticket.query.since.place ≤ j.ticket.query.since.place := by
  have ha := run.advancing
  refine ⟨?_, ?_, fun m later => later.cursor_rises run.dated run.guarded, ha.polls_rise⟩
  · intro hnone
    apply Cursor.eq_absent_of_isAbsent
    by_contra hne
    exact hnone (ha.begun (Bool.eq_false_of_not_eq_true hne))
  · intro page hpage
    have hmem := hpage.position_mem
    rw [ha.cursor_eq]
    exact ⟨hmem, Cursor.foldl_advance_absent_mem (List.ne_nil_of_mem hmem),
      (Cursor.place_le_foldl l.positions .absent).2⟩

def slowRecord : Record := ⟨"t4", .warn, "slow", none, none, []⟩

/-- The first poll after a full load is answered with an older position, the second with a record that
has no position, and the third with the record and its position; then a fourth begins. -/
def positionsGoBack : List Act :=
  [.ask (.start none),
    .complete ⟨0, 1, .full, .full none none⟩ (.ok ⟨[], .ofToken "t3"⟩),
    .ask .tick,
    .complete ⟨2, 1, .incremental, .incremental none (.ofToken "t3")⟩ (.ok ⟨[], .ofToken "t1"⟩),
    .ask .tick,
    .complete ⟨4, 1, .incremental, .incremental none (.ofToken "t3")⟩ (.ok ⟨[slowRecord], .absent⟩),
    .ask .tick,
    .complete ⟨6, 1, .incremental, .incremental none (.ofToken "t3")⟩
      (.ok ⟨[slowRecord], .ofToken "t4"⟩),
    .ask .tick]

/-- The older position counts and changes nothing, the record without one does not count, and the polls
ask for what comes after `t3` three times and then after `t4`. -/
theorem cursor_is_latest_position_behind :
    let l := (new 2 none).replay positionsGoBack
    Run anything (new 2 none) l ∧
    l.Baseline ⟨[], .ofToken "t3"⟩ ∧
    l.positions = [.ofToken "t3", .ofToken "t1", .ofToken "t4"] ∧
    (∀ c ∈ l.positions, c.place ≤ l.engine.cursor.place) ∧
    l.engine.cursor = .ofToken "t4" ∧
    (l.issued.filter (·.ticket.kind = .incremental)).map (·.ticket.query.since) =
      [.ofToken "t3", .ofToken "t3", .ofToken "t3", .ofToken "t4"] := by
  intro l
  have run : Run anything (new 2 none) l := by
    refine .of_valid ⟨trivial, ⟨?_, trivial⟩, trivial, ⟨?_, trivial⟩, trivial, ⟨?_, trivial⟩, trivial,
      ⟨?_, trivial⟩, trivial, trivial⟩
    all_goals decide
  have begun : l.Baseline ⟨[], .ofToken "t3"⟩ :=
    ⟨_, List.mem_cons_self, rfl, rfl, rfl⟩
  obtain ⟨-, hlatest, -, -⟩ := cursor_is_latest_position run
  obtain ⟨-, -, hle⟩ := hlatest _ begun
  exact ⟨run, begun, by decide, hle, by decide, by decide⟩

end Ledger

end LogTail

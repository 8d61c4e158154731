import LogTail.Proofs.Engine.Act

/-!
Runs of an engine. A ledger keeps what happened so far: the tickets issued, those that still wait
for an answer, the answers given and the clears. A run may do anything in any order, but it answers
only tickets that wait, so each at most once, and a supply says which pages may answer them.

`Dated` is what the epochs and the moments of a ledger have to do with each other.
-/
namespace LogTail

open Engine

structure Receipt where
  moment : ℕ
  issue : Issue
  result : Except Fault Page
  completion : Completion

/-- An engine and all that happened to it. -/
structure Ledger where
  engine : Engine
  now : ℕ
  issued : List Issue
  waiting : List Issue
  receipts : List Receipt
  clears : List ℕ

namespace Ledger

def new (capacity : ℕ) (limit : Option ℕ) : Ledger :=
  ⟨.new capacity limit, 0, [], [], [], []⟩

def pending (l : Ledger) : Act → List Issue
  | .complete i _ => l.waiting.filter (· ≠ i)
  | _ => l.waiting

def receipt (l : Ledger) (completion : Option Completion) : Act → List Receipt
  | .complete i result => (completion.map (⟨l.now, i, result, ·⟩)).toList
  | _ => []

def cleared (l : Ledger) : Act → List ℕ
  | .clearSucceeded => [l.now]
  | _ => []

def dated (l : Ledger) (tickets : List Ticket) : List Issue :=
  tickets.map (⟨l.now, ·⟩)

def note (l : Ledger) (a : Act) (e : Engine) (tickets : List Ticket)
    (completion : Option Completion) : Ledger where
  engine := e
  now := l.now + 1
  issued := l.issued ++ l.dated tickets
  waiting := l.pending a ++ l.dated tickets
  receipts := l.receipts ++ l.receipt completion a
  clears := l.clears ++ l.cleared a

def record (l : Ledger) (a : Act) : Ledger :=
  l.note a (l.engine.act a).engine (l.engine.act a).ticket.toList (l.engine.act a).completion

/-- Which pages may answer an issue, given all that happened until then. -/
abbrev Supply := Ledger → Issue → Page → Prop

def anything : Supply := fun _ _ _ => True

/-- Whether an act can take place: only an issue that waits is answered, by an error or by a page
of the supply. -/
def Allows (supply : Supply) (l : Ledger) : Act → Prop
  | .complete i (.ok page) => i ∈ l.waiting ∧ supply l i page
  | .complete i (.error _) => i ∈ l.waiting
  | _ => True

theorem waits_of_allows {supply : Supply} {l : Ledger} {i : Issue} {result : Except Fault Page}
    (h : l.Allows supply (.complete i result)) : i ∈ l.waiting := by
  cases result with
  | error _ => exact h
  | ok _ => exact h.1

inductive Run (supply : Supply) (l : Ledger) : Ledger → Prop
  | refl : Run supply l l
  | step {m : Ledger} {a : Act} (run : Run supply l m) (allowed : m.Allows supply a) :
      Run supply l (m.record a)

theorem Run.trans {supply : Supply} {l m n : Ledger} (h : Run supply l m)
    (h' : Run supply m n) : Run supply l n := by
  induction h' with
  | refl => exact h
  | step _ allowed ih => exact .step ih allowed

/-- What every act keeps holds along every run. -/
theorem Run.keeps {supply : Supply} {l m : Ledger} {P : Ledger → Prop} (run : Run supply l m)
    (start : P l) (step : ∀ n a, P n → n.Allows supply a → P (n.record a)) : P m := by
  induction run with
  | refl => exact start
  | step _ allowed ih => exact step _ _ ih allowed

/-- No issue is forgotten. -/
theorem Run.mem_issued {supply : Supply} {l m : Ledger} (run : Run supply l m) {i : Issue}
    (hi : i ∈ l.issued) : i ∈ m.issued :=
  run.keeps (P := fun n => i ∈ n.issued) hi fun _ _ h _ => List.mem_append_left _ h

def replay (l : Ledger) (acts : List Act) : Ledger :=
  acts.foldl record l

def Valid (supply : Supply) (l : Ledger) : List Act → Prop
  | [] => True
  | a :: rest => l.Allows supply a ∧ (l.record a).Valid supply rest

/-- Acts that can take place make up a run. -/
theorem Run.of_valid {supply : Supply} {l : Ledger} {acts : List Act}
    (h : l.Valid supply acts) : Run supply l (l.replay acts) := by
  induction acts generalizing l with
  | nil => exact .refl
  | cons a rest ih => exact (Run.step .refl h.1).trans (ih h.2)

theorem mem_of_mem_pending {l : Ledger} {a : Act} {i : Issue} (h : i ∈ l.pending a) :
    i ∈ l.waiting := by
  cases a with
  | complete j _ => exact (List.mem_filter.mp h).1
  | ask _ => exact h
  | clearSucceeded => exact h
  | close => exact h
  | wait => exact h

theorem mem_pending_complete {l : Ledger} {i j : Issue} {result : Except Fault Page} :
    i ∈ l.pending (.complete j result) ↔ i ∈ l.waiting ∧ i ≠ j := by
  rw [pending, List.mem_filter, decide_eq_true_eq]

theorem eq_of_mem_cleared {l : Ledger} {a : Act} {m : ℕ} (h : m ∈ l.cleared a) : m = l.now := by
  cases a with
  | clearSucceeded => exact List.mem_singleton.mp h
  | ask _ => cases h
  | complete _ _ => cases h
  | close => cases h
  | wait => cases h

theorem issued_note_nil {l : Ledger} {a : Act} {e : Engine} {c : Option Completion} :
    (l.note a e [] c).issued = l.issued :=
  List.append_nil _

theorem mem_issued_note_nil {l : Ledger} {a : Act} {e : Engine} {c : Option Completion}
    {i : Issue} : i ∈ (l.note a e [] c).issued ↔ i ∈ l.issued := by
  rw [issued_note_nil]

theorem mem_issued_note_single {l : Ledger} {a : Act} {e : Engine} {t : Ticket}
    {c : Option Completion} {i : Issue} :
    i ∈ (l.note a e [t] c).issued ↔ i ∈ l.issued ∨ i = ⟨l.now, t⟩ := by
  rw [note, dated, List.map_singleton, List.mem_append, List.mem_singleton]

theorem mem_waiting_note_nil {l : Ledger} {a : Act} {e : Engine} {c : Option Completion}
    {i : Issue} : i ∈ (l.note a e [] c).waiting ↔ i ∈ l.pending a := by
  change i ∈ l.pending a ++ [] ↔ _
  rw [List.append_nil]

theorem mem_waiting_note_single {l : Ledger} {a : Act} {e : Engine} {t : Ticket}
    {c : Option Completion} {i : Issue} :
    i ∈ (l.note a e [t] c).waiting ↔ i ∈ l.pending a ∨ i = ⟨l.now, t⟩ := by
  rw [note, dated, List.map_singleton, List.mem_append, List.mem_singleton]

/-- What epochs and moments have to do with each other: a ticket of the engine's epoch is no older
than any full load or clear, and asks for the engine's level. A clear that comes after the end of
the session opens no epoch. -/
structure Dated (l : Ledger) : Prop where
  issued_past : ∀ i ∈ l.issued, i.moment < l.now
  clears_past : ∀ m ∈ l.clears, m < l.now
  waiting_issued : ∀ i ∈ l.waiting, i ∈ l.issued
  epoch_le : ∀ i ∈ l.issued, i.ticket.epoch ≤ l.engine.epoch
  full_iff : ∀ i ∈ l.issued, i.ticket.query.isFull = true ↔ i.ticket.kind = .full
  level_eq : ∀ i ∈ l.issued, i.ticket.epoch = l.engine.epoch →
    i.ticket.query.level = l.engine.level
  after_loads : ∀ i ∈ l.issued, i.ticket.epoch = l.engine.epoch →
    ∀ j ∈ l.issued, j.ticket.kind = .full → j ≠ i → j.moment < i.moment
  after_clears : l.engine.phase ≠ .closed → ∀ i ∈ l.issued, i.ticket.epoch = l.engine.epoch →
    ∀ m ∈ l.clears, m < i.moment
  loads_rise : (l.issued.filter (·.ticket.kind = .full)).Pairwise
    fun i j => i.ticket.epoch < j.ticket.epoch

namespace Dated

variable {l : Ledger}

/-- Nothing has happened, so there is nothing to date. -/
theorem of_new (capacity : ℕ) (limit : Option ℕ) : (new capacity limit).Dated where
  issued_past := fun _ hi => nomatch hi
  clears_past := fun _ hm => nomatch hm
  waiting_issued := fun _ hi => nomatch hi
  epoch_le := fun _ hi => nomatch hi
  full_iff := fun _ hi => nomatch hi
  level_eq := fun _ hi => nomatch hi
  after_loads := fun _ hi => nomatch hi
  after_clears := fun _ _ hi => nomatch hi
  loads_rise := .nil

/-- Full loads have epochs of their own. -/
theorem load_unique (h : l.Dated) {i j : Issue} (hi : i ∈ l.issued) (hj : j ∈ l.issued)
    (hki : i.ticket.kind = .full) (hkj : j.ticket.kind = .full)
    (hepoch : i.ticket.epoch = j.ticket.epoch) : i = j := by
  have hi' : i ∈ l.issued.filter (·.ticket.kind = .full) :=
    List.mem_filter.mpr ⟨hi, decide_eq_true hki⟩
  have hj' : j ∈ l.issued.filter (·.ticket.kind = .full) :=
    List.mem_filter.mpr ⟨hj, decide_eq_true hkj⟩
  have hall := List.Pairwise.forall_of_forall_of_flip
    (R := fun (i j : Issue) => i.ticket.epoch = j.ticket.epoch → i = j)
    (fun _ _ _ => rfl)
    (h.loads_rise.imp fun hlt heq => absurd heq (Nat.ne_of_lt hlt))
    (h.loads_rise.imp fun hlt heq => absurd heq (Nat.ne_of_gt hlt))
  exact hall hi' hj' hepoch

/-- Every ticket was issued before now. -/
theorem issued_past_note (h : l.Dated) {a : Act} {e : Engine} {tickets : List Ticket}
    {c : Option Completion} :
    ∀ i ∈ (l.note a e tickets c).issued, i.moment < (l.note a e tickets c).now := by
  intro i hi
  rcases List.mem_append.mp hi with hi | hi
  · exact (h.issued_past i hi).trans (Nat.lt_succ_self _)
  · obtain ⟨t, -, rfl⟩ := List.mem_map.mp hi
    exact Nat.lt_succ_self _

theorem clears_past_note (h : l.Dated) {a : Act} {e : Engine} {tickets : List Ticket}
    {c : Option Completion} :
    ∀ m ∈ (l.note a e tickets c).clears, m < (l.note a e tickets c).now := by
  intro m hm
  rcases List.mem_append.mp hm with hm | hm
  · exact (h.clears_past m hm).trans (Nat.lt_succ_self _)
  · rw [eq_of_mem_cleared hm]
    exact Nat.lt_succ_self _

/-- What waits was issued. -/
theorem waiting_issued_note (h : l.Dated) {a : Act} {e : Engine} {tickets : List Ticket}
    {c : Option Completion} :
    ∀ i ∈ (l.note a e tickets c).waiting, i ∈ (l.note a e tickets c).issued := by
  intro i hi
  rcases List.mem_append.mp hi with hi | hi
  · exact List.mem_append_left _ (h.waiting_issued i (mem_of_mem_pending hi))
  · exact List.mem_append_right _ hi

/-- No ticket issued so far is of an epoch that is only opened now. -/
theorem epoch_ne_of_opened (h : l.Dated) {n : ℕ} (hn : n = l.engine.epoch + 1) {i : Issue}
    (hi : i ∈ l.issued) : i.ticket.epoch ≠ n := by
  have hle := h.epoch_le i hi
  omega

/-- An act that issues nothing and leaves epoch and level alone. It clears nothing unless the
session has ended. -/
theorem note_quiet (h : l.Dated) {a : Act} {e : Engine} (c : Option Completion)
    (hepoch : e.epoch = l.engine.epoch) (hlevel : e.level = l.engine.level)
    (hopen : e.phase ≠ .closed → l.engine.phase ≠ .closed ∧ l.cleared a = []) :
    (l.note a e [] c).Dated := by
  have hissued {i : Issue} (hi : i ∈ (l.note a e [] c).issued) : i ∈ l.issued :=
    mem_issued_note_nil.mp hi
  refine ⟨h.issued_past_note, h.clears_past_note, h.waiting_issued_note, ?_, ?_, ?_, ?_, ?_, ?_⟩
  · intro i hi
    exact hepoch ▸ h.epoch_le i (hissued hi)
  · intro i hi
    exact h.full_iff i (hissued hi)
  · intro i hi hi'
    exact (h.level_eq i (hissued hi) (hi'.trans hepoch)).trans hlevel.symm
  · intro i hi hi' j hj
    exact h.after_loads i (hissued hi) (hi'.trans hepoch) j (hissued hj)
  · intro hlive i hi hi' m hm
    obtain ⟨hwas, hclear⟩ := hopen hlive
    rw [note, hclear, List.append_nil] at hm
    exact h.after_clears hwas i (hissued hi) (hi'.trans hepoch) m hm
  · rw [issued_note_nil]
    exact h.loads_rise

/-- A full load opens an epoch of its own, so its ticket is the only one of the new epoch. -/
theorem note_load (h : l.Dated) {r : Request} {e : Engine} {t : Ticket}
    (hepoch : e.epoch = l.engine.epoch + 1) (hkind : t.kind = .full) (ht : t.epoch = e.epoch)
    (hfull : t.query.isFull = true) (hlevel : t.query.level = e.level) :
    (l.note (.ask r) e [t] none).Dated := by
  have hold {i : Issue} (hi : i ∈ l.issued) : i.ticket.epoch ≠ e.epoch :=
    h.epoch_ne_of_opened hepoch hi
  have hclears : (l.note (.ask r) e [t] none).clears = l.clears := List.append_nil _
  refine ⟨h.issued_past_note, h.clears_past_note, h.waiting_issued_note, ?_, ?_, ?_, ?_, ?_, ?_⟩
  · intro i hi
    rcases mem_issued_note_single.mp hi with hi | rfl
    · have hle := h.epoch_le i hi
      change i.ticket.epoch ≤ e.epoch
      omega
    · exact ht.le
  · intro i hi
    rcases mem_issued_note_single.mp hi with hi | rfl
    · exact h.full_iff i hi
    · exact ⟨fun _ => hkind, fun _ => hfull⟩
  · intro i hi hi'
    rcases mem_issued_note_single.mp hi with hi | rfl
    · exact absurd hi' (hold hi)
    · exact hlevel
  · intro i hi hi' j hj _ hne
    rcases mem_issued_note_single.mp hi with hi | rfl
    · exact absurd hi' (hold hi)
    rcases mem_issued_note_single.mp hj with hj | rfl
    · exact h.issued_past j hj
    · exact absurd rfl hne
  · intro _ i hi hi' m hm
    rcases mem_issued_note_single.mp hi with hi | rfl
    · exact absurd hi' (hold hi)
    · exact h.clears_past m (hclears ▸ hm)
  · rw [note, dated, List.map_singleton, List.filter_append, List.pairwise_append]
    refine ⟨h.loads_rise, List.Pairwise.filter _ (List.pairwise_singleton _ _), ?_⟩
    intro i hi j hj
    have hle := h.epoch_le i (List.mem_of_mem_filter hi)
    rw [List.mem_singleton.mp (List.mem_of_mem_filter hj)]
    -- the epoch of the new load is one that no earlier ticket has
    change i.ticket.epoch < t.epoch
    omega

/-- A poll is issued in the epoch of the engine, after every full load and clear of it. -/
theorem note_poll (h : l.Dated) {e : Engine} {t : Ticket}
    (hphase : l.engine.phase ≠ .closed) (hepoch : e.epoch = l.engine.epoch)
    (hlevel : e.level = l.engine.level) (hkind : t.kind = .incremental)
    (ht : t.epoch = l.engine.epoch) (hpoll : t.query.isFull = false)
    (htlevel : t.query.level = l.engine.level) : (l.note (.ask .tick) e [t] none).Dated := by
  have hclears : (l.note (.ask .tick) e [t] none).clears = l.clears := List.append_nil _
  have hnew {i : Issue} (hi : i = ⟨l.now, t⟩) : i.ticket.kind ≠ .full := by
    rw [hi, hkind]
    exact FetchKind.noConfusion
  refine ⟨h.issued_past_note, h.clears_past_note, h.waiting_issued_note, ?_, ?_, ?_, ?_, ?_, ?_⟩
  · intro i hi
    rcases mem_issued_note_single.mp hi with hi | rfl
    · exact hepoch ▸ h.epoch_le i hi
    · exact (ht.trans hepoch.symm).le
  · intro i hi
    rcases mem_issued_note_single.mp hi with hi | rfl
    · exact h.full_iff i hi
    · rw [hpoll, hkind]
      exact ⟨fun hf => Bool.noConfusion hf, fun hf => FetchKind.noConfusion hf⟩
  · intro i hi hi'
    rcases mem_issued_note_single.mp hi with hi | rfl
    · exact (h.level_eq i hi (hi'.trans hepoch)).trans hlevel.symm
    · exact htlevel.trans hlevel.symm
  · intro i hi hi' j hj hkj hne
    rcases mem_issued_note_single.mp hj with hj | hj
    · rcases mem_issued_note_single.mp hi with hi | rfl
      · exact h.after_loads i hi (hi'.trans hepoch) j hj hkj hne
      · exact h.issued_past j hj
    · exact absurd hkj (hnew hj)
  · intro _ i hi hi' m hm
    rcases mem_issued_note_single.mp hi with hi | rfl
    · exact h.after_clears hphase i hi (hi'.trans hepoch) m (hclears ▸ hm)
    · exact h.clears_past m (hclears ▸ hm)
  · have hnone : [(⟨l.now, t⟩ : Issue)].filter (·.ticket.kind = .full) = [] :=
      List.filter_eq_nil_iff.mpr fun i hi => by
        simpa using hnew (List.mem_singleton.mp hi)
    rw [note, dated, List.map_singleton, List.filter_append, hnone, List.append_nil]
    exact h.loads_rise

/-- A clear opens an epoch that no ticket belongs to yet. -/
theorem note_clear (h : l.Dated) {e : Engine} (c : Option Completion)
    (hepoch : e.epoch = l.engine.epoch + 1) : (l.note .clearSucceeded e [] c).Dated := by
  have hissued {i : Issue} (hi : i ∈ (l.note .clearSucceeded e [] c).issued) : i ∈ l.issued :=
    mem_issued_note_nil.mp hi
  have hold {i : Issue} (hi : i ∈ (l.note .clearSucceeded e [] c).issued) :
      i.ticket.epoch ≠ e.epoch := h.epoch_ne_of_opened hepoch (hissued hi)
  refine ⟨h.issued_past_note, h.clears_past_note, h.waiting_issued_note, ?_, ?_, ?_, ?_, ?_, ?_⟩
  · intro i hi
    have hle := h.epoch_le i (hissued hi)
    change i.ticket.epoch ≤ e.epoch
    omega
  · intro i hi
    exact h.full_iff i (hissued hi)
  · intro i hi hi'
    exact absurd hi' (hold hi)
  · intro i hi hi'
    exact absurd hi' (hold hi)
  · intro _ i hi hi'
    exact absurd hi' (hold hi)
  · rw [issued_note_nil]
    exact h.loads_rise

/-- One act keeps the dates, whatever the engine answers to it. -/
theorem record (h : l.Dated) (a : Act) : (l.record a).Dated := by
  have hturn := l.engine.turn a
  unfold Ledger.record
  generalize l.engine.act a = reaction at hturn ⊢
  cases hturn with
  | wait => exact h.note_quiet none rfl rfl (fun hlive => ⟨hlive, rfl⟩)
  | idle => exact h.note_quiet none rfl rfl (fun hlive => ⟨hlive, rfl⟩)
  | load => exact h.note_load rfl rfl rfl rfl rfl
  | poll polls =>
    obtain ⟨-, hphase, -, hcursor⟩ := polls
    exact h.note_poll (by rw [hphase]; exact Phase.noConfusion) rfl rfl rfl rfl hcursor rfl
  | dropped => exact h.note_quiet _ rfl rfl (fun hlive => ⟨hlive, rfl⟩)
  | loaded live => exact h.note_quiet _ rfl rfl (fun _ => ⟨live.1, rfl⟩)
  | loadFailed live => exact h.note_quiet _ rfl rfl (fun _ => ⟨live.1, rfl⟩)
  | pollFailed live => exact h.note_quiet _ rfl rfl (fun _ => ⟨live.1, rfl⟩)
  | heartbeat live => exact h.note_quiet _ rfl rfl (fun _ => ⟨live.1, rfl⟩)
  | merged live => exact h.note_quiet _ rfl rfl (fun _ => ⟨live.1, rfl⟩)
  | clearedLate closed => exact h.note_quiet none rfl rfl (fun hlive => absurd closed hlive)
  | cleared => exact h.note_clear none rfl
  | closed => exact h.note_quiet none rfl rfl (fun hlive => absurd rfl hlive)

end Dated

theorem Run.dated {supply : Supply} {capacity : ℕ} {limit : Option ℕ} {l : Ledger}
    (run : Run supply (new capacity limit) l) : l.Dated :=
  run.keeps (.of_new capacity limit) fun _ a h _ => h.record a

end Ledger

end LogTail

import LogTail.Proofs.Store.History
import LogTail.Proofs.Engine.Ledger

/-!
Where the records in the buffer come from. An act does nothing to the buffer that is not one of the
buffer's own operations, and what goes into it comes with the answer to some issue. `history` lists
these records with their issues, so that the number of a record is its place in that list. Whatever
is added to it after a clear was asked for after that clear.
-/
namespace LogTail

open Engine

namespace Engine

/-- Every act comes to operations on the buffer. -/
theorem store_act (e : Engine) (a : Act) :
    ∃ ops, (e.act a).engine.store = e.store.after ops := by
  have hturn := e.turn a
  generalize e.act a = reaction at hturn ⊢
  cases hturn with
  | @loaded i page => exact ⟨[.replace page.records], rfl⟩
  | @merged i page => exact ⟨[.append page.records], rfl⟩
  | cleared => exact ⟨[.clear], rfl⟩
  | _ => exact ⟨[], rfl⟩

theorem sound_act {e : Engine} (h : e.store.Sound) (a : Act) : (e.act a).engine.store.Sound := by
  obtain ⟨ops, hops⟩ := e.store_act a
  rw [hops]
  exact h.after ops

/-- What one act does to the buffer is to take in some records. -/
theorem extends_act {e : Engine} (h : e.store.Sound) (a : Act) :
    ∃ taken, e.store.Extends taken (e.act a).engine.store := by
  obtain ⟨ops, hops⟩ := e.store_act a
  rw [hops]
  exact h.extends_after ops

end Engine

def Receipt.taken (capacity : ℕ) (r : Receipt) : List Record :=
  match r.result, r.completion with
  | .ok page, .replaced _ => page.records.rtake capacity
  | .ok page, .appended _ _ => page.records
  | _, _ => []

namespace Ledger

/-- The records that answers put into the buffer, the first first, each with the issue that was
answered. -/
def history (l : Ledger) : List (Issue × Record) :=
  l.receipts.flatMap fun r => (r.taken l.engine.store.capacity).map (r.issue, ·)

/-- What comes to the history, and to the buffer, between two moments of a run. -/
structure Grows (l : Ledger) (more : List (Issue × Record)) (m : Ledger) : Prop where
  history_eq : m.history = l.history ++ more
  store_extends : l.engine.store.Extends (more.map (·.2)) m.engine.store
  clears_subset : l.clears ⊆ m.clears
  after_clears : ∀ p ∈ more, ∀ c ∈ l.clears, c < p.1.moment

variable {l m n : Ledger}

/-- Nothing comes to the history while nothing happens. -/
theorem Grows.refl (l : Ledger) : l.Grows [] l where
  history_eq := (List.append_nil _).symm
  store_extends := .refl _
  clears_subset := List.Subset.refl _
  after_clears := fun _ hp => nomatch hp

/-- What comes to the history in two stretches comes to it in both together. -/
theorem Grows.trans {more rest : List (Issue × Record)} (h : l.Grows more m)
    (h' : m.Grows rest n) : l.Grows (more ++ rest) n := by
  refine ⟨?_, ?_, List.Subset.trans h.clears_subset h'.clears_subset, ?_⟩
  · rw [h'.history_eq, h.history_eq, List.append_assoc]
  · rw [List.map_append]
    exact h.store_extends.trans h'.store_extends
  · intro p hp c hc
    rcases List.mem_append.mp hp with hp | hp
    · exact h.after_clears p hp c hc
    · exact h'.after_clears p hp c (h.clears_subset hc)

/-- The history grows by what the receipt of an act puts into the buffer. -/
theorem history_note {a : Act} {e : Engine} {tickets : List Ticket} {c : Option Completion}
    (hcapacity : e.store.capacity = l.engine.store.capacity) :
    (l.note a e tickets c).history = l.history ++
      (l.receipt c a).flatMap fun r => (r.taken l.engine.store.capacity).map (r.issue, ·) := by
  change (l.receipts ++ l.receipt c a).flatMap
    (fun r => (r.taken e.store.capacity).map (r.issue, ·)) = _
  rw [List.flatMap_append, hcapacity]
  rfl

/-- An act with which nothing comes into the buffer. -/
theorem grows_note_nothing {a : Act} {e : Engine} {tickets : List Ticket} {c : Option Completion}
    (hstore : l.engine.store.Extends [] e.store)
    (hreceipt : ∀ r ∈ l.receipt c a, r.taken l.engine.store.capacity = []) :
    l.Grows [] (l.note a e tickets c) := by
  refine ⟨?_, hstore, List.subset_append_left _ _, fun _ hp => nomatch hp⟩
  have hnone : ((l.receipt c a).flatMap fun r =>
      (r.taken l.engine.store.capacity).map (r.issue, ·)) = [] := by
    apply List.flatMap_eq_nil_iff.mpr
    intro r hr
    rw [hreceipt r hr, List.map_nil]
  rw [history_note hstore.capacity_eq, hnone]

/-- An answer that puts records into the buffer. It is to an issue younger than every clear. -/
theorem grows_note_taken (hd : l.Dated) {i : Issue} {result : Except Fault Page} {e : Engine}
    {c : Completion} {rs : List Record} (hi : i ∈ l.issued) (live : l.engine.Accepts i.ticket)
    (hstore : l.engine.store.Extends rs e.store)
    (htaken : Receipt.taken l.engine.store.capacity ⟨l.now, i, result, c⟩ = rs) :
    l.Grows (rs.map (i, ·)) (l.note (.complete i result) e [] (some c)) := by
  refine ⟨?_, ?_, List.subset_append_left _ _, ?_⟩
  · rw [history_note hstore.capacity_eq, receipt, Option.map_some, Option.toList_some,
      List.flatMap_singleton, htaken]
  · have hrecords : (rs.map (i, ·)).map (·.2) = rs := by
      rw [List.map_map]
      exact List.map_id _
    rw [hrecords]
    exact hstore
  · intro p hp k hk
    obtain ⟨r, -, rfl⟩ := List.mem_map.mp hp
    exact hd.after_clears live.1 i hi live.2 k hk

/-- One act: what comes to the history is what comes to the buffer, each record with an issue that
had waited. -/
theorem grows_record (hd : l.Dated) (hs : l.engine.store.Sound) {supply : Supply} {a : Act}
    (allowed : l.Allows supply a) : ∃ more, l.Grows more (l.record a) := by
  have hturn := l.engine.turn a
  have hsame := Store.Extends.refl l.engine.store
  have hissued {i : Issue} {result : Except Fault Page}
      (h : l.Allows supply (.complete i result)) : i ∈ l.issued :=
    hd.waiting_issued i (waits_of_allows h)
  have hquiet {c : Option Completion} {a : Act} (h : l.receipt c a = []) :
      ∀ r ∈ l.receipt c a, r.taken l.engine.store.capacity = [] := by
    intro r hr
    rw [h] at hr
    cases hr
  -- an answer that is reported as anything but replaced or appended brings nothing
  have hnothing {i : Issue} {result : Except Fault Page} {c : Completion}
      (h : Receipt.taken l.engine.store.capacity ⟨l.now, i, result, c⟩ = []) :
      ∀ r ∈ l.receipt (some c) (.complete i result), r.taken l.engine.store.capacity = [] := by
    intro r hr
    rw [List.mem_singleton.mp hr]
    exact h
  unfold record
  generalize l.engine.act a = reaction at hturn ⊢
  cases hturn with
  | wait => exact ⟨_, grows_note_nothing hsame (hquiet rfl)⟩
  | idle => exact ⟨_, grows_note_nothing hsame (hquiet rfl)⟩
  | load => exact ⟨_, grows_note_nothing hsame (hquiet rfl)⟩
  | poll => exact ⟨_, grows_note_nothing hsame (hquiet rfl)⟩
  | @dropped i result => exact ⟨_, grows_note_nothing hsame (hnothing (by cases result <;> rfl))⟩
  | @loaded i page live =>
    exact ⟨_, grows_note_taken hd (hissued allowed) live
      (Store.extends_apply hs.fits (.replace page.records)) rfl⟩
  | loadFailed => exact ⟨_, grows_note_nothing hsame (hnothing rfl)⟩
  | @pollFailed i result =>
    exact ⟨_, grows_note_nothing hsame (hnothing (by cases result <;> rfl))⟩
  | heartbeat => exact ⟨_, grows_note_nothing hsame (hnothing rfl)⟩
  | @merged i page live =>
    exact ⟨_, grows_note_taken hd (hissued allowed) live
      (Store.extends_apply hs.fits (.append page.records)) rfl⟩
  | clearedLate => exact ⟨_, grows_note_nothing hsame (hquiet rfl)⟩
  | cleared =>
    exact ⟨_, grows_note_nothing (Store.extends_apply hs.fits .clear) (hquiet rfl)⟩
  | closed => exact ⟨_, grows_note_nothing hsame (hquiet rfl)⟩

theorem Run.grows {supply : Supply} (hd : l.Dated) (hs : l.engine.store.Sound)
    (run : Run supply l m) : ∃ more, l.Grows more m := by
  have h := run.keeps (P := fun n => n.Dated ∧ n.engine.store.Sound ∧ ∃ more, l.Grows more n)
    ⟨hd, hs, [], .refl l⟩ ?_
  · exact h.2.2
  · rintro n a ⟨hnd, hns, more, hmore⟩ allowed
    obtain ⟨rest, hrest⟩ := grows_record hnd hns allowed
    exact ⟨hnd.record a, sound_act hns a, _, hmore.trans hrest⟩

/-- If the buffer was empty, what it holds later came into it in between. -/
theorem Grows.origin {more : List (Issue × Record)} (h : l.Grows more m)
    (hlength : l.history.length = l.engine.store.nextSeq) (hempty : l.engine.store.entries = [])
    {x : Stored} (hx : x ∈ m.engine.store.entries) :
    l.history.length ≤ x.seq ∧
      ∃ i, (i, x.record) ∈ more ∧ m.history[x.seq]? = some (i, x.record) := by
  have hnew : x ∈ Store.numbered l.engine.store.nextSeq (more.map (·.2)) := by
    have hmem := h.store_extends.entries_suffix.subset hx
    rw [hempty, List.nil_append] at hmem
    exact hmem
  obtain ⟨hle, hget⟩ := Store.getElem?_of_mem_numbered hnew
  rw [← hlength] at hle hget
  rw [List.getElem?_map, Option.map_eq_some_iff] at hget
  obtain ⟨⟨i, r⟩, hplace, hr⟩ := hget
  obtain rfl : r = x.record := hr
  refine ⟨hle, i, List.mem_of_getElem? hplace, ?_⟩
  rw [h.history_eq, List.getElem?_append_right hle, hplace]

theorem Run.sound {supply : Supply} {capacity : ℕ} {limit : Option ℕ}
    (run : Run supply (new capacity limit) l) : l.engine.store.Sound :=
  run.keeps (P := fun n => n.engine.store.Sound) (Store.empty_sound capacity)
    fun _ a h _ => sound_act h a

/-- The next number to be given is the number of records that the buffer has taken in. -/
theorem Run.length_history {supply : Supply} {capacity : ℕ} {limit : Option ℕ}
    (run : Run supply (new capacity limit) l) : l.history.length = l.engine.store.nextSeq := by
  obtain ⟨more, hmore⟩ := run.grows (.of_new capacity limit) (Store.empty_sound capacity)
  have hhistory : l.history = more := hmore.history_eq
  rw [hmore.store_extends.nextSeq_eq, List.length_map, ← hhistory]
  exact (Nat.zero_add _).symm

end Ledger

end LogTail

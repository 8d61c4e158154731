import LogTail.Plain
import LogTail.Proofs.View.Place

/-!
The log printed as plain lines. A session goes on, a view of it is refreshed at some moments and what is
new in it is printed at others, and the only thing kept in between is the number of the record printed
last. That is enough: a number is never given twice, and a record that comes into the buffer later than
one that was printed has a greater number than that one.
-/
namespace LogTail

open Engine

theorem Plain.printNew_snd (visible : List Stored) (last : Option ℕ) :
    (printNew visible last).2 =
      ((visible.filter fun s => last.all (· < s.seq)).getLast?.map (·.seq)).or last := by
  unfold printNew
  dsimp only
  cases (visible.filter fun s => last.all (· < s.seq)).getLast? <;> rfl

/-- A session, a view of it and what was printed of that. -/
structure Printer where
  reader : Reader
  last : Option ℕ
  lines : List String
  printed : List Stored

namespace Printer

inductive Turn
  | move (m : Move)
  | refresh
  | print

def unprinted (p : Printer) : List Stored :=
  p.reader.view.visible.filter fun s => p.last.all (· < s.seq)

def step (p : Printer) : Turn → Printer
  | .move m => { p with reader := p.reader.step (.move m) }
  | .refresh => { p with reader := p.reader.step .refresh }
  | .print =>
    { p with
      last := (Plain.printNew p.reader.view.visible p.last).2
      lines := p.lines ++ (Plain.printNew p.reader.view.visible p.last).1
      printed := p.printed ++ p.unprinted }

def after (p : Printer) (turns : List Turn) : Printer :=
  turns.foldl step p

def begun (capacity : ℕ) (limit : Option ℕ) (level : LevelFilter) (threshold : PinThreshold) :
    Printer :=
  ⟨(Reader.opened capacity limit level []).step (.withThreshold threshold), none, [], []⟩

def buffer (p : Printer) : Store :=
  p.reader.session.engine.store

def pulled (p : Printer) : List Stored :=
  p.reader.given.snapshot.records

def Shows (p : Printer) (x : Stored) : Prop :=
  TextFilter.passes ⟨p.reader.given.text⟩ p.reader.given.level x.record = true

/-- What is kept while a log is printed. Of the records that may still become visible, none with a
number that was passed over is left to print. -/
structure Faithful (p : Printer) : Prop where
  sound : p.reader.Sound
  paired : p.reader.Paired
  lines_eq : p.lines = p.printed.map fun x => Plain.line x.record true
  last_eq : p.last = p.printed.getLast?.map (·.seq)
  ascending : p.printed.Pairwise (·.seq < ·.seq)
  numbered : ∀ x ∈ p.printed, x.seq < p.buffer.nextSeq
  caught_up : ∀ x, x ∈ p.pulled ∨ x ∈ p.buffer.entries → p.Shows x →
    ∀ y ∈ p.printed, x.seq ≤ y.seq → x ∈ p.printed

/-- Nothing has been seen, and nothing has been printed. -/
theorem begun_faithful (capacity : ℕ) (limit : Option ℕ) (level : LevelFilter)
    (threshold : PinThreshold) : (begun capacity limit level threshold).Faithful where
  sound := (Reader.opened_sound capacity limit level []).step (.withThreshold threshold)
  paired := (Reader.opened_paired capacity limit level []).step
    (Reader.opened_sound capacity limit level []) (.withThreshold threshold)
  lines_eq := rfl
  last_eq := rfl
  ascending := .nil
  numbered := fun _ hx => nomatch hx
  caught_up := fun _ _ _ _ hy => nomatch hy

variable {p : Printer}

theorem mem_visible_iff (h : p.reader.Sound) {x : Stored} :
    x ∈ p.reader.view.visible ↔ x ∈ p.pulled ∧ p.Shows x := by
  rw [h.visible_eq]
  exact List.mem_filter

theorem buffer_move (h : p.buffer.Sound) (m : Move) :
    (p.step (.move m)).buffer.Sound ∧ ∃ taken, p.buffer.Extends taken (p.step (.move m)).buffer := by
  have hengine : (p.step (.move m)).buffer = (p.reader.session.engine.act _).engine.store :=
    congrArg Engine.store (p.reader.session.move_engine m).1
  rw [hengine]
  exact ⟨sound_act h _, extends_act h _⟩

namespace Faithful

theorem all_last_iff (h : p.Faithful) (n : ℕ) :
    p.last.all (· < n) = true ↔ ∀ x ∈ p.printed, x.seq < n := by
  -- the record printed last has the greatest number, so it stands for all of them
  rw [h.last_eq]
  cases hlast : p.printed.getLast? with
  | none =>
    rw [List.getLast?_eq_none_iff.mp hlast]
    simp
  | some newest =>
    obtain ⟨before, hprinted⟩ := List.getLast?_eq_some_iff.mp hlast
    have hrise := h.ascending
    rw [hprinted, List.pairwise_append] at hrise
    rw [Option.map_some, Option.all_some, decide_eq_true_eq, hprinted]
    refine ⟨?_, fun hall => hall newest (List.mem_append_right _ (List.mem_singleton.mpr rfl))⟩
    intro hlt x hx
    rcases List.mem_append.mp hx with hx | hx
    · exact (hrise.2.2 x hx newest (List.mem_singleton.mpr rfl)).trans hlt
    · rw [List.mem_singleton.mp hx]
      exact hlt

theorem mem_unprinted_iff (h : p.Faithful) {x : Stored} :
    x ∈ p.unprinted ↔ x ∈ p.reader.view.visible ∧ ∀ y ∈ p.printed, y.seq < x.seq := by
  rw [unprinted, List.mem_filter, h.all_last_iff]

/-- What happens to the session does not touch what was printed, and gives later numbers to what it
takes in. -/
theorem move (h : p.Faithful) (m : Move) : (p.step (.move m)).Faithful := by
  obtain ⟨-, taken, hextends⟩ := buffer_move h.paired.sound m
  refine ⟨h.sound.move m, h.paired.step h.sound (.move m), h.lines_eq, h.last_eq, h.ascending, ?_, ?_⟩
  · intro x hx
    have hlt := h.numbered x hx
    rw [hextends.nextSeq_eq]
    omega
  · rintro x (hx | hx) hshows y hy hle
    · exact h.caught_up x (.inl hx) hshows y hy hle
    · -- a record that has come in by now would have a greater number
      have hbefore : x ∈ p.buffer.entries :=
        hextends.mem_of_seq_lt hx (hle.trans_lt (h.numbered y hy))
      exact h.caught_up x (.inr hbefore) hshows y hy hle

/-- What is pulled now is what the session holds now. -/
theorem pulled_refresh (h : p.Faithful) : (p.step .refresh).pulled = p.buffer.entries :=
  congrArg Snapshot.records h.sound.current.published_eq

theorem refresh (h : p.Faithful) : (p.step .refresh).Faithful := by
  refine ⟨h.sound.refresh, h.paired.step h.sound .refresh, h.lines_eq, h.last_eq, h.ascending,
    h.numbered, ?_⟩
  intro x hx hshows
  rw [h.pulled_refresh] at hx
  exact h.caught_up x (.inr (or_self_iff.mp hx)) hshows

/-- After printing, all that is visible has been printed. -/
theorem print_printed (h : p.Faithful) {x : Stored} (hx : x ∈ p.reader.view.visible) :
    x ∈ (p.step .print).printed := by
  -- a record that is passed over has been printed before
  by_cases hnew : ∀ y ∈ p.printed, y.seq < x.seq
  · exact List.mem_append_right _ (h.mem_unprinted_iff.mpr ⟨hx, hnew⟩)
  · push Not at hnew
    obtain ⟨y, hy, hle⟩ := hnew
    obtain ⟨hpulled, hshows⟩ := (mem_visible_iff h.sound).mp hx
    exact List.mem_append_left _ (h.caught_up x (.inl hpulled) hshows y hy hle)

/-- Printing goes on from the number of the last record printed, so none is printed twice and none
passed over. -/
theorem print (h : p.Faithful) : (p.step .print).Faithful := by
  obtain ⟨s, taken, hrecords, hsound, hextends⟩ := h.paired.pulled
  have hpulled {x : Stored} (hx : x ∈ p.unprinted) : x ∈ s.entries := by
    rw [← hrecords]
    exact ((mem_visible_iff h.sound).mp (h.mem_unprinted_iff.mp hx).1).1
  have hlt {x : Stored} (hx : x ∈ p.unprinted) : x.seq < s.nextSeq := hsound.seq_lt (hpulled hx)
  refine ⟨h.sound, h.paired, ?_, ?_, ?_, ?_, ?_⟩
  · change p.lines ++ _ = (p.printed ++ p.unprinted).map _
    rw [h.lines_eq, List.map_append]
    rfl
  · change (Plain.printNew _ _).2 = (p.printed ++ p.unprinted).getLast?.map _
    rw [Plain.printNew_snd, List.getLast?_append, Option.map_or]
    exact congrArg (Option.or _) h.last_eq
  · refine List.pairwise_append.mpr ⟨h.ascending, ?_, ?_⟩
    · exact (h.paired.visible_ascending h.sound).filter _
    · intro x hx y hy
      exact (h.mem_unprinted_iff.mp hy).2 x hx
  · intro x hx
    rcases List.mem_append.mp hx with hx | hx
    · exact h.numbered x hx
    · have hnext := hextends.nextSeq_eq
      have hs := hlt hx
      change x.seq < p.reader.session.engine.store.nextSeq
      omega
  · intro x hx hshows y hy hle
    rcases List.mem_append.mp hy with hy | hy
    · exact List.mem_append_left _ (h.caught_up x hx hshows y hy hle)
    · -- the record was there already when the snapshot was taken, and so it is visible
      have hmem : x ∈ p.pulled := by
        rcases hx with hx | hx
        · exact hx
        · have hbefore := hextends.mem_of_seq_lt hx (hle.trans_lt (hlt hy))
          rw [← hrecords] at hbefore
          exact hbefore
      exact h.print_printed ((mem_visible_iff h.sound).mpr ⟨hmem, hshows⟩)

/-- One turn, by its cases. -/
theorem step (h : p.Faithful) (t : Turn) : (p.step t).Faithful := by
  cases t with
  | move m => exact h.move m
  | refresh => exact h.refresh
  | print => exact h.print

theorem after (h : p.Faithful) (turns : List Turn) : (p.after turns).Faithful := by
  induction turns generalizing p with
  | nil => exact h
  | cons t rest ih => exact ih (h.step t)

end Faithful

/-- Every later buffer of a run goes on from this one. -/
theorem extends_after (h : p.buffer.Sound) (turns : List Turn) :
    (p.after turns).buffer.Sound ∧ ∃ taken, p.buffer.Extends taken (p.after turns).buffer := by
  induction turns generalizing p with
  | nil => exact ⟨h, [], .refl _⟩
  | cons t rest ih =>
    have hstep : (p.step t).buffer.Sound ∧ ∃ taken, p.buffer.Extends taken (p.step t).buffer := by
      cases t with
      | move m => exact buffer_move h m
      | refresh => exact ⟨h, [], .refl _⟩
      | print => exact ⟨h, [], .refl _⟩
    obtain ⟨hnext, taken, hextends⟩ := hstep
    obtain ⟨hlast, more, hmore⟩ := ih hnext
    exact ⟨hlast, _, hextends.trans hmore⟩

/-- A number names one record at all moments of a run. -/
theorem eq_of_seq_eq (h : p.buffer.Sound) {turns before before' : List Turn}
    (hbefore : before <+: turns) (hbefore' : before' <+: turns) {x y : Stored}
    (hx : x ∈ (p.after before).buffer.entries) (hy : y ∈ (p.after before').buffer.entries)
    (heq : y.seq = x.seq) : y = x := by
  -- of two moments one comes first, and its numbers are not given again
  have hlater {first more : List Turn} {u v : Stored}
      (hu : u ∈ (p.after first).buffer.entries) (hv : v ∈ (p.after (first ++ more)).buffer.entries)
      (huv : v.seq = u.seq) : v = u := by
    rw [after, List.foldl_append] at hv
    obtain ⟨hsound, -⟩ := extends_after h first
    obtain ⟨-, taken, hextends⟩ := extends_after hsound more
    exact hsound.eq_of_seq_eq hextends hu hv huv
  rcases List.prefix_or_prefix_of_prefix hbefore hbefore' with ⟨more, rfl⟩ | ⟨more, rfl⟩
  · exact hlater hx hy heq
  · exact (hlater hy hx heq.symm).symm

/-- Whether a record was in the buffer at some moment of a run. -/
def Held (p : Printer) (turns : List Turn) (x : Stored) : Prop :=
  ∃ before, before <+: turns ∧ x ∈ (p.after before).buffer.entries

/-- Printing takes from what was pulled, and a refresh pulls what is in the buffer. -/
theorem Faithful.mem_of_step (h : p.Faithful) {t : Turn} {x : Stored}
    (hx : x ∈ (p.step t).printed ∨ x ∈ (p.step t).pulled) :
    x ∈ p.printed ∨ x ∈ p.pulled ∨ x ∈ p.buffer.entries := by
  cases t with
  | move m => exact hx.imp_right .inl
  | refresh =>
    rw [h.pulled_refresh] at hx
    exact hx.imp_right .inr
  | print =>
    rcases hx with hx | hx
    · rcases List.mem_append.mp hx with hx | hx
      · exact .inl hx
      · have hvisible := (h.mem_unprinted_iff.mp hx).1
        exact .inr (.inl ((mem_visible_iff h.sound).mp hvisible).1)
    · exact .inr (.inl hx)

/-- What is printed, and what the view has been given, was in the buffer at some moment of the run.
-/
theorem held_of_printed (h : p.Faithful) (hprinted : p.printed = [])
    (hpulled : p.pulled = p.buffer.entries) (turns : List Turn) {x : Stored}
    (hx : x ∈ (p.after turns).printed ∨ x ∈ (p.after turns).pulled) : p.Held turns x := by
  -- along the run, from the first moment to the last
  induction turns using List.reverseRecOn with
  | nil =>
    refine ⟨[], List.nil_prefix, ?_⟩
    rcases hx with hx | hx
    · cases hprinted ▸ hx
    · exact hpulled ▸ hx
  | append_singleton rest t ih =>
    have hstep : p.after (rest ++ [t]) = (p.after rest).step t := List.foldl_append
    rw [hstep] at hx
    have hheld : p.Held rest x := by
      rcases (h.after rest).mem_of_step hx with hx | hx | hx
      · exact ih (.inl hx)
      · exact ih (.inr hx)
      · exact ⟨rest, List.prefix_rfl, hx⟩
    obtain ⟨before, hbefore, hmem⟩ := hheld
    exact ⟨before, hbefore.trans (List.prefix_append rest [t]), hmem⟩

theorem filters_after (p : Printer) (turns : List Turn) :
    (p.after turns).reader.given.level = p.reader.given.level ∧
      (p.after turns).reader.given.text = p.reader.given.text := by
  induction turns generalizing p with
  | nil => exact ⟨rfl, rfl⟩
  | cons t rest ih =>
    obtain ⟨hlevel, htext⟩ := ih (p.step t)
    cases t <;> exact ⟨hlevel, htext⟩

/-- Every record is printed once. Whatever happens to the session, and whenever the view is refreshed
and what is new in it is printed: the numbers of the records printed rise, every line is that of the
record that had its number, which no other record had at any moment, and of the records that are visible
when something is printed, those of the snapshot pulled last that have the level, each has then been printed
exactly once. -/
theorem printed_once (capacity : ℕ) (limit : Option ℕ) (level : LevelFilter)
    (threshold : PinThreshold) (turns : List Turn) :
    let start := begun capacity limit level threshold
    let p := start.after turns
    p.lines = p.printed.map (fun x => Plain.line x.record true) ∧
    p.printed.Pairwise (·.seq < ·.seq) ∧
    (∀ x ∈ p.printed,
      (∃ before, before <+: turns ∧ x ∈ (start.after before).buffer.entries) ∧
      ∀ before, before <+: turns → ∀ y ∈ (start.after before).buffer.entries,
        y.seq = x.seq → y = x) ∧
    (p.reader.view.snapshot = p.reader.given.snapshot ∧ p.reader.view.visible =
      p.reader.given.snapshot.records.filter (fun s => level.all (s.record.level == ·))) ∧
    ∀ x ∈ p.reader.view.visible, x ∈ (p.step .print).printed ∧
      ((p.step .print).printed.map (·.seq)).count x.seq = 1 := by
  intro start p
  have hstart : start.Faithful := begun_faithful capacity limit level threshold
  have hp : p.Faithful := hstart.after turns
  refine ⟨hp.lines_eq, hp.ascending, ?_, ?_, ?_⟩
  · intro x hx
    obtain ⟨before, hbefore, hmem⟩ := held_of_printed hstart rfl rfl turns (.inl hx)
    refine ⟨⟨before, hbefore, hmem⟩, ?_⟩
    intro before' hbefore' y hy heq
    exact eq_of_seq_eq hstart.paired.sound hbefore hbefore' hmem hy heq
  · obtain ⟨hlevel, htext⟩ : p.reader.given.level = level ∧ p.reader.given.text = "" :=
      filters_after start turns
    have hsnapshot : p.reader.view.snapshot = p.reader.given.snapshot :=
      congrArg View.Inputs.snapshot hp.sound.inputs_eq
    refine ⟨hsnapshot, ?_⟩
    rw [hp.sound.visible_eq, hlevel, htext, TextFilter.apply_eq_filter]
    -- no text is in every text
    exact List.filter_congr fun _ _ => Bool.and_true _
  · intro x hx
    have hmem := hp.print_printed hx
    have hnodup : ((p.step .print).printed.map (·.seq)).Nodup :=
      List.pairwise_map.mpr (hp.print.ascending.imp Nat.ne_of_lt)
    exact ⟨hmem, List.count_eq_one_of_mem hnodup (List.mem_map_of_mem hmem)⟩

/-- Two records are loaded and printed, and three more are polled, of which a view is given only the last two. -/
def refilled : List Turn :=
  let load : Page := ⟨[Reader.lineAt "t1" "a", Reader.lineAt "t2" "b"], .ofToken "t2"⟩
  let poll : Page := ⟨[Reader.lineAt "t3" "c", Reader.lineAt "t4" "d", Reader.lineAt "t5" "e"],
    .ofToken "t5"⟩
  [.move (.fetched ⟨0, 1, .full, .full none none⟩ (.ok load)), .refresh, .print, .move .tick,
    .move (.fetched ⟨2, 1, .incremental, .incremental none (.ofToken "t2")⟩ (.ok poll)), .print,
    .refresh, .print, .print]

/-- A buffer for two records is refilled before the view is refreshed: what was dropped unseen is not
printed, and what is still there is not printed again. -/
theorem printed_once_refilled :
    let p := (begun 2 none none (.units 1)).after refilled
    p.printed.map (fun x => (x.seq, x.record.message)) = [(0, "a"), (1, "b"), (3, "d"), (4, "e")] ∧
    p.lines = ["t1 INFO  a", "t2 INFO  b", "t4 INFO  d", "t5 INFO  e"] ∧
    p.reader.view.visible.map (·.seq) = [3, 4] ∧
    ∀ x ∈ p.reader.view.visible, ((p.step .print).printed.map (·.seq)).count x.seq = 1 := by
  intro p
  obtain ⟨hlines, -, -, -, hprinted⟩ := printed_once 2 none none (.units 1) refilled
  refine ⟨by decide, hlines.trans ?_, by decide, fun x hx => (hprinted x hx).2⟩
  decide

end Printer

end LogTail

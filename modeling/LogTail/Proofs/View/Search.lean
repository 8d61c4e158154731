import LogTail.Proofs.View.Place

/-!
Searching and giving up the search. Every text that is looked for on the way makes the visible records
anew, and each time the window is put at the first record of the window before. Nothing remembers where
the search began: when the first text is looked for again, only the first record of the last window says
where to go. So the reader is brought back just where that record lies between the last one above the
window and the first one in it, and a text that nothing has leads to the top of the log.
-/
namespace LogTail

theorem le_length_takeWhile_iff {α : Type*} {p : α → Bool} {xs : List α} {n : ℕ} (hn : n ≤ xs.length) :
    n ≤ (xs.takeWhile p).length ↔ ∀ x ∈ xs.take n, p x = true := by
  induction xs generalizing n with
  | nil =>
    obtain rfl : n = 0 := Nat.le_zero.mp hn
    simp
  | cons x rest ih =>
    cases n with
    | zero => simp
    | succ n =>
      have hrest := ih (Nat.le_of_succ_le_succ hn)
      rw [List.take_succ_cons, List.forall_mem_cons, ← hrest]
      by_cases hx : p x = true
      · simp [hx]
      · simp [hx]

namespace View

variable {v w : View}

def search (v : View) (texts : List String) : View :=
  texts.foldl setText v

theorem setText_text (v : View) (text : String) : (v.setText text).filter.text = text :=
  congrArg Inputs.text (v.setText_inputs text)

theorem setText_viewport (v : View) (text : String) :
    (v.setText text).scroll.viewport = v.scroll.viewport :=
  congrArg Inputs.height (v.setText_inputs text)

theorem recompute_pinned (v : View) : v.recompute.1.scroll.pinned = v.scroll.pinned := by
  by_cases hkey : v.key = some v.currentKey
  · rw [recompute_of_fresh hkey]
  · rw [recompute_of_stale hkey]
    dsimp only [regained]
    split
    · exact Scroll.settle_pinned _
    · exact Scroll.settle_pinned _

/-- Another view of the same records for a reader who does not follow the log: one that differs in the
text it looks for and in the place of its window. -/
structure Alongside (v w : View) : Prop where
  coherent : w.Coherent
  pinned_eq : w.scroll.pinned = false
  inputs_eq : w.inputs = { v.inputs with text := w.filter.text }

namespace Alongside

theorem snapshot_eq (h : v.Alongside w) : w.snapshot = v.snapshot :=
  congrArg Inputs.snapshot h.inputs_eq

theorem level_eq (h : v.Alongside w) : w.level = v.level :=
  congrArg Inputs.level h.inputs_eq

theorem viewport_eq (h : v.Alongside w) : w.scroll.viewport = v.scroll.viewport :=
  congrArg Inputs.height h.inputs_eq

theorem self (hv : v.Coherent) (hpinned : v.scroll.pinned = false) : v.Alongside v :=
  ⟨hv, hpinned, rfl⟩

/-- Whatever text is looked for, the view stays alongside the first one. -/
theorem setText (h : v.Alongside w) (text : String) : v.Alongside (w.setText text) where
  coherent := h.coherent.setText text
  pinned_eq := by
    unfold View.setText
    split
    · exact h.pinned_eq
    · exact (recompute_pinned _).trans h.pinned_eq
  inputs_eq := by
    rw [setText_text, w.setText_inputs, h.inputs_eq]

theorem search (h : v.Alongside w) (texts : List String) : v.Alongside (w.search texts) := by
  induction texts generalizing w with
  | nil => exact h
  | cons text rest ih => exact ih (h.setText text)

theorem visible_eq (h : v.Alongside w) :
    w.visible = TextFilter.apply ⟨w.filter.text⟩ v.level v.snapshot.records := by
  rw [h.coherent.visible_eq, h.level_eq, h.snapshot_eq]

theorem ascending (h : v.Alongside w) (hrise : v.snapshot.records.Pairwise (·.seq < ·.seq)) :
    w.visible.Pairwise (·.seq < ·.seq) := by
  rw [h.visible_eq]
  exact hrise.filter _

end Alongside

/-- How many of some records come before the first record of a window, if it has one. -/
def rank (top? : Option Stored) (records : List Stored) : ℕ :=
  (records.takeWhile fun y => top?.any (y.seq < ·.seq)).length

/-- A window of some height shows nothing only if nothing is visible. -/
theorem Coherent.visible_of_no_top (hw : w.Coherent) (hheight : 0 < w.scroll.viewport)
    (hnone : w.window.head? = none) : w.visible = [] := by
  have hlength : w.window.length = 0 := by rw [List.head?_eq_none_iff.mp hnone]; rfl
  rw [hw.length_window] at hlength
  exact List.length_eq_zero_iff.mp (by omega)

theorem recompute_offset_of_none (hpinned : w.scroll.pinned = false) (hanchor : w.anchor = none)
    (hzero : w.scroll.offset = 0) : w.recompute.1.scroll.offset = 0 := by
  by_cases hkey : w.key = some w.currentKey
  · rw [recompute_of_fresh hkey]
    exact hzero
  · rw [recompute_of_stale hkey]
    have hkept (n : ℕ) : (w.scroll.setContent n).1.offset = min w.scroll.offset (n - w.scroll.viewport) :=
      Scroll.settle_offset_of_released hpinned
    simp only [regained, hanchor, hkept, hzero, Nat.zero_min]

/-- Another text leaves the window at its first record, or at the next one that passes. -/
theorem setText_standsAt (hw : w.Coherent) (hpinned : w.scroll.pinned = false)
    (hrise : w.visible.Pairwise (·.seq < ·.seq)) {top : Stored} (htop : w.window.head? = some top)
    (text : String) : (w.setText text).StandsAt top.seq := by
  have hstands := hw.standsAt hrise htop
  unfold setText
  split
  · exact hstands
  · exact standsAt_recompute (v := { w with filter := ⟨text⟩ }) (anchor_of_top hpinned htop) hstands

/-- Where a text puts the window: at the first record that was in view, or as near to it as the window
is full; and at the top if no record was in view. -/
theorem setText_offset (hw : w.Coherent) (hpinned : w.scroll.pinned = false)
    (hrise : w.visible.Pairwise (·.seq < ·.seq)) (hheight : 0 < w.scroll.viewport) (text : String) :
    (w.setText text).scroll.offset = min (rank w.window.head? (w.setText text).visible)
      ((w.setText text).visible.length - w.scroll.viewport) := by
  cases htop : w.window.head? with
  | some top =>
    have hplace := setText_standsAt hw hpinned hrise htop text
    rw [StandsAt, setText_viewport] at hplace
    exact hplace
  | none =>
    have hempty := hw.visible_of_no_top hheight htop
    have hanchor : w.anchor = none := by
      rw [anchor, hpinned, hempty]
      rfl
    have hzero : w.scroll.offset = 0 := by
      have hle := hw.offset_le
      rw [hempty] at hle
      exact Nat.le_zero.mp (hle.trans (Nat.sub_le _ _))
    have hoffset : (w.setText text).scroll.offset = 0 := by
      unfold setText
      split
      · exact hzero
      · exact recompute_offset_of_none (w := { w with filter := ⟨text⟩ }) hpinned hanchor hzero
    have hrank : rank none (w.setText text).visible = 0 := by simp [rank]
    rw [hoffset, hrank, Nat.zero_min]

/-- Whether the first record of a window leads to the window of a view: it comes after all that is above
the window, and, unless the window is at the bottom, not after the first record in it. -/
def LedBack (v : View) (top? : Option Stored) : Prop :=
  (∀ y ∈ v.visible.take v.scroll.offset, ∃ x ∈ top?, y.seq < x.seq) ∧
  (v.scroll.offset = v.scroll.maxOffset ∨
    ∀ first ∈ v.window.head?, ∀ x ∈ top?, x.seq ≤ first.seq)

/-- The condition on the first record is one on the place that it leads to. -/
theorem Coherent.ledBack_iff (hv : v.Coherent) (hheight : 0 < v.scroll.viewport)
    (top? : Option Stored) :
    v.LedBack top? ↔
      v.scroll.offset = min (rank top? v.visible) (v.visible.length - v.scroll.viewport) := by
  have hoffset := hv.offset_le
  have hmax : v.scroll.maxOffset = v.visible.length - v.scroll.viewport := by
    rw [Scroll.maxOffset, hv.content_eq]
  have hhead : v.window.head? = v.visible[v.scroll.offset]? := by
    rw [window, List.head?_take, if_neg hheight.ne', List.head?_drop]
  have hany (y : Stored) : (top?.any (y.seq < ·.seq) = true) ↔ ∃ x ∈ top?, y.seq < x.seq := by
    cases top? <;> simp
  have habove : v.scroll.offset ≤ rank top? v.visible ↔
      ∀ y ∈ v.visible.take v.scroll.offset, ∃ x ∈ top?, y.seq < x.seq := by
    rw [rank, le_length_takeWhile_iff (by omega)]
    simp only [hany]
  rw [LedBack, ← habove, hmax, hhead]
  -- what comes before the record is counted from the top of the window, if there is one
  by_cases hlt : v.scroll.offset < v.visible.length
  · have hpast : v.scroll.offset + 1 ≤ rank top? v.visible ↔
        v.scroll.offset ≤ rank top? v.visible ∧ ∃ x ∈ top?, v.visible[v.scroll.offset].seq < x.seq := by
      rw [habove, rank, le_length_takeWhile_iff hlt, List.take_succ_eq_append_getElem hlt,
        List.forall_mem_append]
      simp only [hany, List.forall_mem_singleton]
    have hfirst : (∀ first ∈ v.visible[v.scroll.offset]?, ∀ x ∈ top?, x.seq ≤ first.seq) ↔
        ¬ ∃ x ∈ top?, v.visible[v.scroll.offset].seq < x.seq := by
      simp [List.getElem?_eq_getElem hlt]
    have hmin : v.scroll.offset = min (rank top? v.visible) (v.visible.length - v.scroll.viewport) ↔
        v.scroll.offset ≤ rank top? v.visible ∧
          (v.scroll.offset = v.visible.length - v.scroll.viewport ∨
            ¬ v.scroll.offset + 1 ≤ rank top? v.visible) := by
      omega
    rw [hfirst, hmin, hpast]
    exact and_congr_right fun hle => by rw [and_iff_right hle]
  · -- there is nothing in view, and nowhere else to be
    have hzero : v.scroll.offset = 0 ∧ v.visible.length - v.scroll.viewport = 0 := by omega
    simp [hzero]

/-- On the same rising records two windows of one height show the same just where they begin at the same
place. -/
theorem window_eq_iff (hv : v.Coherent) (hw : w.Coherent) (hvisible : w.visible = v.visible)
    (hviewport : w.scroll.viewport = v.scroll.viewport) (hheight : 0 < v.scroll.viewport)
    (hrise : v.visible.Pairwise (·.seq < ·.seq)) :
    w.window = v.window ↔ w.scroll.offset = v.scroll.offset := by
  have hvle := hv.offset_le
  have hwle := hw.offset_le
  rw [hvisible, hviewport] at hwle
  constructor
  · intro hwindow
    have hhead : v.visible[w.scroll.offset]? = v.visible[v.scroll.offset]? := by
      have hheads := congrArg List.head? hwindow
      simpa only [window, hvisible, hviewport, List.head?_take, if_neg hheight.ne', List.head?_drop]
        using hheads
    by_cases hempty : v.visible.length = 0
    · omega
    · have hnodup : v.visible.Nodup := hrise.imp fun hlt heq => Nat.ne_of_lt hlt (congrArg Stored.seq heq)
      exact (List.getElem?_inj (by omega) hnodup).mp hhead
  · intro hoffset
    rw [window, window, hvisible, hviewport, hoffset]

/-- Whether a text lets a record pass, with enough records from there on to fill the window. -/
def Keeps (v : View) (top : Stored) (text : String) : Prop :=
  ∃ older newer, TextFilter.apply ⟨text⟩ v.level v.snapshot.records = older ++ top :: newer ∧
    v.scroll.viewport ≤ (top :: newer).length

/-- Texts that keep the first record in view leave it at the top of the window. -/
theorem Alongside.top_of_keeps (h : v.Alongside w) (hrise : v.snapshot.records.Pairwise (·.seq < ·.seq))
    (hheight : 0 < v.scroll.viewport) {top : Stored} (htop : w.window.head? = some top)
    {texts : List String} (hkeeps : ∀ text ∈ texts, v.Keeps top text) :
    (w.search texts).window.head? = some top := by
  induction texts generalizing w with
  | nil => exact htop
  | cons text rest ih =>
    obtain ⟨htext, hrest⟩ := List.forall_mem_cons.mp hkeeps
    have hnext := h.setText text
    refine ih hnext ?_ hrest
    obtain ⟨older, newer, happly, henough⟩ := htext
    have hvisible : (w.setText text).visible = older ++ top :: newer := by
      rw [hnext.visible_eq, setText_text, happly]
    have hbefore : ∀ y ∈ older, y.seq < top.seq :=
      seq_lt_of_ascending (hvisible ▸ hnext.ascending hrise)
    have hplace := setText_standsAt h.coherent h.pinned_eq (h.ascending hrise) htop text
    rw [← hnext.viewport_eq] at hheight henough
    obtain ⟨-, hwindow⟩ := hplace.window_eq hheight hvisible hbefore (le_refl _)
    rw [hwindow henough, List.head?_take, if_neg hheight.ne', List.head?_cons]

/-- What is left of the place of a reader who has looked for some texts and gives them up. -/
theorem search_given_up (hv : v.Coherent) (hpinned : v.scroll.pinned = false)
    (hrise : v.snapshot.records.Pairwise (·.seq < ·.seq)) (hheight : 0 < v.scroll.viewport)
    (texts : List String) :
    let w := v.search texts
    let back := w.setText v.filter.text
    back.visible = v.visible ∧ back.scroll.viewport = v.scroll.viewport ∧
    (back.window = v.window ↔ v.LedBack w.window.head?) ∧
    (w.visible = [] → (back.window = v.window ↔ v.scroll.offset = 0)) ∧
    ∀ top, v.window.head? = some top → (∀ text ∈ texts, v.Keeps top text) → back.window = v.window := by
  intro w back
  have hself := Alongside.self hv hpinned
  have hw : v.Alongside w := hself.search texts
  have hback : v.Alongside back := hw.setText _
  have hvisible : back.visible = v.visible := by
    rw [hback.visible_eq, setText_text, hself.visible_eq]
  have hoffset : back.scroll.offset =
      min (rank w.window.head? v.visible) (v.visible.length - v.scroll.viewport) := by
    have hw' : 0 < w.scroll.viewport := hheight.trans_eq hw.viewport_eq.symm
    rw [← hvisible, ← hw.viewport_eq]
    exact setText_offset hw.coherent hw.pinned_eq (hw.ascending hrise) hw' _
  have hwindow : back.window = v.window ↔ v.LedBack w.window.head? := by
    rw [window_eq_iff hv hback.coherent hvisible hback.viewport_eq hheight (hself.ascending hrise),
      hv.ledBack_iff hheight, hoffset, eq_comm]
  refine ⟨hvisible, hback.viewport_eq, hwindow, ?_, ?_⟩
  · intro hempty
    have hnone : w.window.head? = none := by rw [window, hempty]; simp
    have hrank : rank none v.visible = 0 := by simp [rank]
    rw [hwindow, hnone, hv.ledBack_iff hheight, hrank, Nat.zero_min]
  · intro top htop hkeeps
    rw [hwindow, hself.top_of_keeps hrise hheight htop hkeeps, hv.ledBack_iff hheight]
    exact hv.standsAt (hself.ascending hrise) htop

end View

end LogTail

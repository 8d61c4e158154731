import LogTail.Proofs.Engine.History
import LogTail.Proofs.View.Reader

/-!
The place of a reader who does not follow the log. When the visible records are made anew, the window
goes to the first record that is not before the one that was at its top, or as near to it as a full
window can begin. The numbers of the visible records rise, since those of the buffer do; and a buffer
of later loses its oldest records only, so a window that has lost none shows the same records again.
-/
namespace LogTail

/-- What lies before a number is all that comes before the first record that does not. -/
theorem takeWhile_seq_lt {older newer : List Stored} {x : Stored} {n : ℕ}
    (holder : ∀ y ∈ older, y.seq < n) (hx : n ≤ x.seq) :
    (older ++ x :: newer).takeWhile (·.seq < n) = older := by
  have hall : ∀ y ∈ older, decide (y.seq < n) = true := fun y hy => decide_eq_true (holder y hy)
  have hstop : (x :: newer).takeWhile (·.seq < n) = [] := by
    apply List.takeWhile_cons_of_neg
    rw [decide_eq_true_eq]
    omega
  rw [List.takeWhile_append_of_pos hall, hstop, List.append_nil]

theorem seq_lt_of_ascending {older newer : List Stored} {x : Stored}
    (hrise : (older ++ x :: newer).Pairwise (·.seq < ·.seq)) : ∀ y ∈ older, y.seq < x.seq := by
  obtain ⟨-, -, hlt⟩ := List.pairwise_append.mp hrise
  exact fun y hy => hlt y hy x List.mem_cons_self

/-- A list that has lost records at its front, but not this one, goes on from it as before. -/
theorem suffix_split {xs above rest : List Stored} {t : Stored}
    (hsuffix : xs <:+ above ++ t :: rest) (ht : t ∈ xs) (hrest : t ∉ rest) :
    ∃ kept, xs = kept ++ t :: rest ∧ kept ⊆ above := by
  rcases List.suffix_or_suffix_of_suffix hsuffix (List.suffix_append above (t :: rest)) with hxs | htail
  · -- all that is left begins at the record or after it
    rcases List.suffix_cons_iff.mp hxs with rfl | hxs
    · exact ⟨[], rfl, List.nil_subset _⟩
    · exact absurd (hxs.subset ht) hrest
  · obtain ⟨kept, rfl⟩ := htail
    exact ⟨kept, rfl, (List.suffix_append_self_iff.mp hsuffix).subset⟩

namespace View

/-- Whether the window begins at the first record that is not before a number, or at the last place
from which it can be full if that comes earlier. -/
def StandsAt (v : View) (n : ℕ) : Prop :=
  v.scroll.offset =
    min (v.visible.takeWhile (·.seq < n)).length (v.visible.length - v.scroll.viewport)

theorem getElem?_of_head?_window {v : View} {top : Stored} (h : v.window.head? = some top) :
    v.visible[v.scroll.offset]? = some top := by
  rw [window, List.head?_take] at h
  split at h
  · cases h
  · rw [← List.head?_drop]
    exact h

theorem anchor_of_top {v : View} {top : Stored} (hpinned : v.scroll.pinned = false)
    (htop : v.window.head? = some top) : v.anchor = some top.seq := by
  rw [anchor, hpinned, if_neg Bool.false_ne_true, getElem?_of_head?_window htop, Option.map_some]

/-- With rising numbers the window stands at the number of its own first record. -/
theorem Coherent.standsAt {v : View} (h : v.Coherent)
    (hrise : v.visible.Pairwise (·.seq < ·.seq)) {top : Stored}
    (htop : v.window.head? = some top) : v.StandsAt top.seq := by
  obtain ⟨above, below, hsplit, habove⟩ := h.visible_split
  obtain ⟨inside, hinside⟩ := List.head?_eq_some_iff.mp htop
  have hvisible : v.visible = above ++ top :: (inside ++ below) := by
    rw [hsplit, hinside, List.append_assoc, List.cons_append]
  have hbefore : ∀ y ∈ above, y.seq < top.seq := seq_lt_of_ascending (hvisible ▸ hrise)
  have hoffset := h.offset_le
  have hplace : v.visible.takeWhile (·.seq < top.seq) = above := by
    rw [hvisible]
    exact takeWhile_seq_lt hbefore (le_refl _)
  rw [StandsAt, hplace, habove]
  omega

/-- Where records are made anew, the window comes to stand at the anchor. -/
theorem standsAt_recompute {v : View} {n : ℕ} (hanchor : v.anchor = some n)
    (hfresh : v.StandsAt n) : v.recompute.1.StandsAt n := by
  by_cases hkey : v.key = some v.currentKey
  · rw [recompute_of_fresh hkey]
    exact hfresh
  · rw [recompute_of_stale hkey, StandsAt]
    simp only [regained, hanchor, Scroll.anchorAt, Scroll.maxOffset, Scroll.setContent_content,
      Scroll.setContent_viewport]

/-- A window that stands at a number shows the first record that is not before it, and begins with
that record if there are enough records from there on. -/
theorem StandsAt.window_eq {v : View} {n : ℕ} (h : v.StandsAt n) (hheight : 0 < v.scroll.viewport)
    {older newer : List Stored} {x : Stored} (hvisible : v.visible = older ++ x :: newer)
    (holder : ∀ y ∈ older, y.seq < n) (hx : n ≤ x.seq) :
    x ∈ v.window ∧ (v.scroll.viewport ≤ (x :: newer).length →
      v.window = (x :: newer).take v.scroll.viewport) := by
  have hlen : v.visible.length = older.length + (x :: newer).length := by
    rw [hvisible, List.length_append]
  have hcons : (x :: newer).length = newer.length + 1 := List.length_cons
  rw [StandsAt, hvisible, takeWhile_seq_lt holder hx, ← hvisible] at h
  refine ⟨?_, ?_⟩
  · have hle : v.scroll.offset ≤ older.length := by omega
    have hdrop : v.visible.drop v.scroll.offset = older.drop v.scroll.offset ++ x :: newer := by
      rw [hvisible, List.drop_append_of_le_length hle]
    -- fewer records come before it in the window than the window is high
    obtain ⟨k, hk⟩ : ∃ k, v.scroll.viewport = (older.drop v.scroll.offset).length + (k + 1) := by
      refine ⟨v.scroll.viewport - (older.length - v.scroll.offset) - 1, ?_⟩
      rw [List.length_drop]
      omega
    rw [window, hdrop, hk, List.take_length_add_append, List.take_succ_cons]
    exact List.mem_append_right _ List.mem_cons_self
  · intro henough
    have hoffset : v.scroll.offset = older.length := by omega
    rw [window, hoffset, hvisible, List.drop_left]

/-- If anything is left from a number on, a window that stands there shows the first of it. -/
theorem StandsAt.first_in_window {v : View} {n : ℕ} (h : v.StandsAt n)
    (hheight : 0 < v.scroll.viewport) (hsome : ∃ y ∈ v.visible, n ≤ y.seq) :
    ∃ older x newer, v.visible = older ++ x :: newer ∧ (∀ y ∈ older, y.seq < n) ∧ n ≤ x.seq ∧
      x ∈ v.window ∧ (v.scroll.viewport ≤ (x :: newer).length → v.window.head? = some x) := by
  obtain ⟨y, hy, hle⟩ := hsome
  obtain ⟨x, hfind⟩ : ∃ x, v.visible.find? (n ≤ ·.seq) = some x := by
    apply Option.isSome_iff_exists.mp
    rw [List.find?_isSome]
    exact ⟨y, hy, decide_eq_true hle⟩
  obtain ⟨hx, older, newer, hvisible, holder⟩ := List.find?_eq_some_iff_append.mp hfind
  have holder' : ∀ y ∈ older, y.seq < n := by
    intro y hy
    have hnot := holder y hy
    simpa using hnot
  have hx' : n ≤ x.seq := of_decide_eq_true hx
  obtain ⟨hmem, hwindow⟩ := h.window_eq hheight hvisible holder' hx'
  refine ⟨older, x, newer, hvisible, holder', hx', hmem, ?_⟩
  intro henough
  rw [hwindow henough, List.head?_take, if_neg hheight.ne']
  rfl

end View

namespace Reader

open Engine

/-- Whether the buffer of the session is sound, and goes on from the one that the snapshot of the
view was taken of. -/
structure Paired (r : Reader) : Prop where
  sound : r.session.engine.store.Sound
  pulled : ∃ (s : Store) (taken : List Record), r.given.snapshot.records = s.entries ∧ s.Sound ∧
    s.Extends taken r.session.engine.store

/-- The buffer of a session stays sound. -/
theorem session_sound {s : Session} (h : s.engine.store.Sound) (moves : List Move) :
    (s.after moves).engine.store.Sound := by
  induction moves generalizing s with
  | nil => exact h
  | cons m rest ih =>
    apply ih
    rw [(s.move_engine m).1]
    exact sound_act h _

/-- A view that has just been opened is of the buffer as it is. -/
theorem opened_paired (capacity : ℕ) (limit : Option ℕ) (level : LevelFilter) (moves : List Move) :
    (opened capacity limit level moves).Paired := by
  have hcurrent := (Session.start_current capacity limit level).after moves
  have hsound : ((Session.start capacity limit level).1.after moves).engine.store.Sound :=
    session_sound (Store.empty_sound capacity) moves
  refine ⟨hsound, _, [], ?_, hsound, .refl _⟩
  exact congrArg Snapshot.records hcurrent.published_eq

theorem Sound.visible_eq {r : Reader} (h : r.Sound) :
    r.view.visible = TextFilter.apply ⟨r.given.text⟩ r.given.level r.given.snapshot.records := by
  rw [← h.inputs_eq]
  exact h.coherent.visible_eq

namespace Paired

variable {r : Reader}

/-- One deed keeps the buffer going on from the one that the view has seen. -/
theorem step (h : r.Paired) (hs : r.Sound) (d : Deed) : (r.step d).Paired := by
  obtain ⟨s, taken, hrecords, hsound, hextends⟩ := h.pulled
  cases d with
  | move m =>
    obtain ⟨more, hmore⟩ := extends_act h.sound (r.session.act m)
    have hengine := (r.session.move_engine m).1
    rw [← hengine] at hmore
    refine ⟨?_, s, _, hrecords, hsound, hextends.trans hmore⟩
    change (r.session.move m).1.engine.store.Sound
    rw [hengine]
    exact sound_act h.sound _
  | refresh =>
    refine ⟨h.sound, _, [], ?_, h.sound, .refl _⟩
    exact congrArg Snapshot.records hs.current.published_eq
  | setLevel level =>
    have hengine := Sound.inform_engine r.session (r.view.setLevel level).2
    refine ⟨?_, s, taken, hrecords, hsound, ?_⟩
    · change (inform r.session _).engine.store.Sound
      rw [hengine]
      exact h.sound
    · change s.Extends taken (inform r.session _).engine.store
      rw [hengine]
      exact hextends
  | setText _ => exact ⟨h.sound, s, taken, hrecords, hsound, hextends⟩
  | setHeight _ => exact ⟨h.sound, s, taken, hrecords, hsound, hextends⟩
  | withThreshold _ => exact ⟨h.sound, s, taken, hrecords, hsound, hextends⟩
  | scroll _ => exact ⟨h.sound, s, taken, hrecords, hsound, hextends⟩

theorem after (h : r.Paired) (hs : r.Sound) (deeds : List Deed) : (r.after deeds).Paired := by
  induction deeds generalizing r with
  | nil => exact h
  | cons d rest ih => exact ih (h.step hs d) (hs.step d)

/-- The numbers of the visible records rise. -/
theorem visible_ascending (h : r.Paired) (hs : r.Sound) :
    r.view.visible.Pairwise (·.seq < ·.seq) := by
  obtain ⟨s, -, hrecords, hsound, -⟩ := h.pulled
  rw [hs.visible_eq, hrecords]
  exact hsound.ascending.filter _

end Paired

/-- Whether a deed may change which records are visible. -/
def Deed.Refilters : Deed → Prop
  | .refresh | .setLevel _ | .setText _ => True
  | _ => False

theorem height_step {r : Reader} {d : Deed} (hd : d.Refilters) :
    (r.step d).given.height = r.given.height := by
  cases d with
  | refresh => rfl
  | setLevel _ => rfl
  | setText _ => rfl
  | move _ => cases hd
  | setHeight _ => cases hd
  | withThreshold _ => cases hd
  | scroll _ => cases hd

/-- One deed that may change what is visible leaves the window at its first record, or at the next
one still there. -/
theorem standsAt_step {r : Reader} (h : r.Paired) (hs : r.Sound)
    (hpinned : r.view.scroll.pinned = false) {top : Stored}
    (htop : r.view.window.head? = some top) {d : Deed} (hd : d.Refilters) :
    (r.step d).view.StandsAt top.seq := by
  have hanchor := View.anchor_of_top hpinned htop
  have hstands := hs.coherent.standsAt (h.visible_ascending hs) htop
  -- none of these deeds moves the window before the records are made anew
  cases d with
  | refresh =>
    exact View.standsAt_recompute (v := { r.view with snapshot := r.session.published })
      hanchor hstands
  | setLevel level =>
    change (r.view.setLevel level).1.StandsAt top.seq
    unfold View.setLevel
    split
    · exact hstands
    · exact View.standsAt_recompute (v := { r.view with level := level }) hanchor hstands
  | setText text =>
    change (r.view.setText text).StandsAt top.seq
    unfold View.setText
    split
    · exact hstands
    · exact View.standsAt_recompute (v := { r.view with filter := ⟨text⟩ }) hanchor hstands
  | move _ => cases hd
  | setHeight _ => cases hd
  | withThreshold _ => cases hd
  | scroll _ => cases hd

/-- What a refresh leaves of the visible records: from the top of the window on they go on as before,
if that record is still in the buffer. -/
theorem visible_refresh {r : Reader} (h : r.Paired) (hs : r.Sound) {above tail : List Stored}
    {top : Stored} (hvisible : r.view.visible = above ++ top :: tail)
    (hleft : top ∈ r.session.published.records) :
    ∃ kept more, (r.step .refresh).view.visible = kept ++ top :: (tail ++ more) ∧
      kept ⊆ above := by
  obtain ⟨s, taken, hrecords, hsound, hextends⟩ := h.pulled
  let passes : Stored → Bool := fun x =>
    TextFilter.recordMatches (TextFilter.needle ⟨r.given.text⟩) r.given.level x.record
  have hbefore : s.entries.filter passes = above ++ top :: tail := by
    rw [← hvisible, hs.visible_eq, hrecords]
    rfl
  have hafter : (r.step .refresh).view.visible = r.session.published.records.filter passes :=
    (hs.step .refresh).visible_eq
  have hpublished : r.session.published.records = r.session.engine.store.entries :=
    congrArg Snapshot.records hs.current.published_eq
  have hsuffix : (r.step .refresh).view.visible <:+
      above ++ top :: (tail ++ (Store.numbered s.nextSeq taken).filter passes) := by
    have hall := hextends.entries_suffix.filter passes
    rw [List.filter_append, hbefore, ← hpublished, ← hafter, List.append_assoc,
      List.cons_append] at hall
    exact hall
  obtain ⟨htop, hpasses⟩ : top ∈ s.entries ∧ passes top = true := by
    apply List.mem_filter.mp
    rw [hbefore]
    exact List.mem_append_right _ List.mem_cons_self
  have hstill : top ∈ (r.step .refresh).view.visible := by
    rw [hafter]
    exact List.mem_filter.mpr ⟨hleft, hpasses⟩
  -- the record is not among the later ones, which all have greater numbers
  have honce : top ∉ tail ++ (Store.numbered s.nextSeq taken).filter passes := by
    intro hmem
    rcases List.mem_append.mp hmem with hmem | hmem
    · have hrise := hsound.ascending.filter passes
      rw [hbefore, List.pairwise_append] at hrise
      have hlt : top.seq < top.seq := (List.pairwise_cons.mp hrise.2.1).1 top hmem
      exact Nat.lt_irrefl _ hlt
    · have hle := (Store.getElem?_of_mem_numbered (List.mem_of_mem_filter hmem)).1
      have hlt := hsound.seq_lt htop
      omega
  obtain ⟨kept, hkept, hsub⟩ := suffix_split hsuffix hstill honce
  exact ⟨kept, _, hkept, hsub⟩

theorem viewport_refilters {r : Reader} (hs : r.Sound) {d : Deed} (hd : d.Refilters) :
    (r.step d).view.scroll.viewport = r.given.height :=
  (congrArg View.Inputs.height (hs.step d).inputs_eq).trans (height_step hd)

/-- A refresh that finds the top record of a full window still in the buffer leaves the window as it
is. -/
theorem window_refresh {r : Reader} (hp : r.Paired) (hs : r.Sound)
    (hpinned : r.view.scroll.pinned = false) (hheight : 0 < r.given.height) {top : Stored}
    (htop : r.view.window.head? = some top) (hfull : r.view.window.length = r.given.height)
    (hleft : top ∈ r.session.published.records) :
    (r.step .refresh).view.window = r.view.window := by
  have hviewport := viewport_refilters hs (d := .refresh) trivial
  have hstands : (r.step .refresh).view.StandsAt top.seq :=
    standsAt_step hp hs hpinned htop trivial
  obtain ⟨above, below, hsplit, -⟩ := hs.coherent.visible_split
  obtain ⟨inside, hinside⟩ := List.head?_eq_some_iff.mp htop
  have hvisible : r.view.visible = above ++ top :: (inside ++ below) := by
    rw [hsplit, hinside, List.append_assoc, List.cons_append]
  obtain ⟨kept, more, hkept, hsub⟩ := visible_refresh hp hs hvisible hleft
  have hbefore : ∀ y ∈ kept, y.seq < top.seq := by
    have hrise := hp.visible_ascending hs
    rw [hvisible, List.pairwise_append] at hrise
    obtain ⟨-, -, hlt⟩ := hrise
    exact fun y hy => hlt y (hsub hy) top List.mem_cons_self
  obtain ⟨-, hwindow⟩ :=
    hstands.window_eq (hheight.trans_eq hviewport.symm) hkept hbefore (le_refl _)
  -- the old window is the beginning of what the new one is taken from
  have hfrom : top :: (inside ++ below ++ more) = r.view.window ++ (below ++ more) := by
    rw [hinside, List.append_assoc, List.cons_append]
  have henough : r.given.height ≤ (top :: (inside ++ below ++ more)).length := by
    rw [hfrom, List.length_append, hfull]
    exact Nat.le_add_right _ _
  rw [hwindow (hviewport.trans_le henough), hviewport, hfrom, ← hfull, List.take_left]

/-- A reader who does not follow the log keeps the place. Whatever happened to the session, and
whichever of the filters is changed: of the visible records that are not before the one at the top of
the window, the first is in the window afterwards, and at its top if enough of them come after it.
When a refresh finds the top record of a full window still in the buffer, the window shows the same
records as before; the oldest go first, so then all of the window are still there. -/
theorem reading_place_is_kept (capacity : ℕ) (limit : Option ℕ) (level : LevelFilter)
    (moves : List Move) (deeds : List Deed) (d : Deed) (hd : d.Refilters) :
    let r := (opened capacity limit level moves).after deeds
    let r' := r.step d
    r.view.scroll.pinned = false → 0 < r.given.height →
    ∀ top, r.view.window.head? = some top →
      r'.view.visible.Pairwise (·.seq < ·.seq) ∧
      ((∃ y ∈ r'.view.visible, top.seq ≤ y.seq) →
        ∃ older x newer, r'.view.visible = older ++ x :: newer ∧ (∀ y ∈ older, y.seq < top.seq) ∧
          top.seq ≤ x.seq ∧ x ∈ r'.view.window ∧
          (r.given.height ≤ (x :: newer).length → r'.view.window.head? = some x)) ∧
      (d = .refresh → r.view.window.length = r.given.height →
        top ∈ r.session.published.records → r'.view.window = r.view.window) := by
  intro r r' hpinned hheight top htop
  have hs : r.Sound := (opened_sound capacity limit level moves).after deeds
  have hp : r.Paired := (opened_paired capacity limit level moves).after
    (opened_sound capacity limit level moves) deeds
  have hviewport : r'.view.scroll.viewport = r.given.height := viewport_refilters hs hd
  have hstands : r'.view.StandsAt top.seq := standsAt_step hp hs hpinned htop hd
  refine ⟨(hp.step hs d).visible_ascending (hs.step d), ?_, ?_⟩
  · intro hsome
    have hfirst := hstands.first_in_window (hheight.trans_eq hviewport.symm) hsome
    rw [hviewport] at hfirst
    exact hfirst
  · rintro rfl hfull hleft
    exact window_refresh hp hs hpinned hheight htop hfull hleft

def lineAt (timestamp message : String) : Record :=
  ⟨timestamp, .info, message, none, none, []⟩

def fiveLines : List Move :=
  [.fetched ⟨0, 1, .full, .full none none⟩
    (.ok ⟨[lineAt "t1" "a", lineAt "t2" "b", lineAt "t3" "c", lineAt "t4" "d", lineAt "t5" "e"],
      .ofToken "t5"⟩)]

/-- A reader of two records at once goes up from the bottom, and two more records come. -/
def aboveTheBottom : List Deed :=
  [.setHeight 2, .withThreshold (.units 1), .scroll (.up 1), .move .tick,
    .move (.fetched ⟨2, 1, .incremental, .incremental none (.ofToken "t5")⟩
      (.ok ⟨[lineAt "t6" "f", lineAt "t7" "e"], .ofToken "t7"⟩))]

/-- When the reader pulls the snapshot, the two oldest records are gone and the window is as it was.
When the reader looks for a text instead that the top record does not have, the next one that has it
comes into the window. -/
theorem reading_place_is_kept_above_bottom :
    let r := (opened 5 none none fiveLines).after aboveTheBottom
    r.view.scroll.offset = 2 ∧ (r.step .refresh).view.scroll.offset = 0 ∧
    (r.step .refresh).view.window = r.view.window ∧
    r.view.window.map (·.seq) = [2, 3] ∧
    ∃ x ∈ (r.step (.setText "e")).view.window, 2 ≤ x.seq := by
  intro r
  have hplace := reading_place_is_kept 5 none none fiveLines aboveTheBottom
  obtain ⟨-, -, hwindow⟩ :=
    hplace .refresh trivial rfl (by decide) ⟨2, lineAt "t3" "c"⟩ rfl
  obtain ⟨-, hfirst, -⟩ :=
    hplace (.setText "e") trivial rfl (by decide) ⟨2, lineAt "t3" "c"⟩ rfl
  obtain ⟨-, x, -, -, -, hle, hmem, -⟩ := hfirst ⟨⟨4, lineAt "t5" "e"⟩, List.mem_cons_self, by decide⟩
  exact ⟨by decide, by decide, hwindow rfl rfl List.mem_cons_self, by decide, x, hmem, hle⟩

end Reader

end LogTail

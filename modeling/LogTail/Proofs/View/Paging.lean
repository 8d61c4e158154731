import LogTail.Proofs.Scroll.Paging
import LogTail.Proofs.View.Reader

/-!
A reader who turns pages sees every visible record. What holds of the viewport alone, in natural numbers and in
words, is carried to the window of a view, whatever has happened to the session and the view before.
-/
namespace LogTail

/-- A viewport in words comes to the same offset, page after page. -/
theorem WordScroll.toTop_repeated_offset {w : WordScroll} (h : 1 ≤ w.viewport.toNat) (k : ℕ) :
    ((w.operate .toTop).after (List.replicate k .pageDown)).offset.toNat =
      min (k * w.viewport.toNat) (w.content.toNat - w.viewport.toNat) := by
  have hnumber : ((w.operate .toTop).after (List.replicate k .pageDown)).number =
      w.number.toTop.repeated .pageDown k := by
    rw [number_after, number_operate, List.map_replicate]
    rfl
  calc ((w.operate .toTop).after (List.replicate k .pageDown)).offset.toNat
      = (w.number.toTop.repeated .pageDown k).offset := congrArg Scroll.offset hnumber
    _ = _ := Scroll.toTop_repeated_offset h k

namespace View

open Scroll

variable {v : View}

/-- What the viewport has in view stands in the window. -/
theorem mem_window_of_inView {i : ℕ} (hi : i < v.visible.length) (h : v.scroll.InView i) :
    v.visible[i] ∈ v.window := by
  obtain ⟨hfirst, hlast⟩ := h
  have hlt : i - v.scroll.offset < v.window.length := by
    rw [window, List.length_take, List.length_drop]
    omega
  have hget : v.window[i - v.scroll.offset] = v.visible[i] := by
    simp only [window, List.getElem_take, List.getElem_drop]
    congr
    omega
  exact hget ▸ List.getElem_mem hlt

/-- A scroll moves the window over the visible records and leaves its height. -/
theorem window_scrollBy {f : Scroll → Scroll} (h : (f v.scroll).viewport = v.scroll.viewport) :
    (v.scrollBy f).window =
      (v.visible.drop (v.scrollBy f).scroll.offset).take v.scroll.viewport := by
  rw [window, ← h]
  rfl

variable (hcontent : v.scroll.content = v.visible.length) (h : 1 ≤ v.scroll.viewport)
include hcontent h

/-- Pages down from the top, as they show in the window. -/
theorem pages_down (k : ℕ) :
    let down := v.scrollBy (·.toTop.repeated .pageDown k)
    down.scroll.offset = min (k * v.scroll.viewport) (v.visible.length - v.scroll.viewport) ∧
      down.window = (v.visible.drop down.scroll.offset).take v.scroll.viewport := by
  rw [← hcontent]
  exact ⟨toTop_repeated_offset h k,
    window_scrollBy (v.scroll.toTop.repeated_viewport .pageDown k)⟩

/-- Pages up from the bottom, as they show in the window. -/
theorem pages_up (k : ℕ) :
    let up := v.scrollBy (·.toLatest.repeated .pageUp k)
    up.scroll.offset = v.visible.length - v.scroll.viewport - k * v.scroll.viewport ∧
      up.window = (v.visible.drop up.scroll.offset).take v.scroll.viewport := by
  rw [← hcontent]
  exact ⟨repeated_pageUp_offset (s := v.scroll.toLatest) h rfl k,
    window_scrollBy (v.scroll.toLatest.repeated_viewport .pageUp k)⟩

/-- A record that is visible comes into the window on both ways. -/
theorem mem_window_of_pages {x : Stored} (hx : x ∈ v.visible) :
    (∃ k ≤ v.scroll.pageCount, x ∈ (v.scrollBy (·.toTop.repeated .pageDown k)).window) ∧
      ∃ k ≤ v.scroll.pageCount, x ∈ (v.scrollBy (·.toLatest.repeated .pageUp k)).window := by
  obtain ⟨i, hi, rfl⟩ := List.getElem_of_mem hx
  obtain ⟨k, hk, hview⟩ := toTop_repeated_inView h (hcontent ▸ hi)
  obtain ⟨k', hk', hview'⟩ :=
    repeated_pageUp_inView (s := v.scroll.toLatest) h rfl (hcontent ▸ hi)
  exact ⟨⟨k, hk, mem_window_of_inView (v := v.scrollBy _) hi hview⟩,
    k', hk', mem_window_of_inView (v := v.scrollBy _) hi hview'⟩

end View

namespace Reader

open Scroll

theorem after_scrolls (r : Reader) (g : Gesture) (k : ℕ) :
    (r.after (List.replicate k (.scroll g))).view = r.view.scrollBy (·.repeated g k) := by
  induction k generalizing r with
  | zero => rfl
  | succ k ih => exact ih (r.step (.scroll g))

/-- Pages down from the top and pages up from the bottom move the viewport by its height until it cannot go
farther, which takes as many of them as the height goes into what is out of view, rounded up; each begins no
later than the one before it ends, and every unit of the content is in view on the way. So every record that a
view shows is in its window at one time. -/
theorem pages_cover :
    (∀ s : Scroll, 1 ≤ s.viewport →
      (∀ k, (s.toTop.repeated .pageDown k).offset = min (k * s.viewport) (s.content - s.viewport)) ∧
      (∀ k, (s.toTop.repeated .pageDown k).offset = s.maxOffset ↔
        (s.content - s.viewport) ⌈/⌉ s.viewport ≤ k) ∧
      (∀ k, (s.content - s.viewport) ⌈/⌉ s.viewport ≤ k →
        s.toTop.repeated .pageDown (k + 1) = s.toTop.repeated .pageDown k) ∧
      (∀ k, (s.toTop.repeated .pageDown (k + 1)).offset ≤
        (s.toTop.repeated .pageDown k).offset + s.viewport) ∧
      ∀ i < s.content, ∃ k ≤ (s.content - s.viewport) ⌈/⌉ s.viewport,
        (s.toTop.repeated .pageDown k).InView i) ∧
    (∀ s : Scroll, 1 ≤ s.viewport → s.offset = s.maxOffset →
      (∀ k, (s.repeated .pageUp k).offset = s.content - s.viewport - k * s.viewport) ∧
      (∀ k, (s.repeated .pageUp k).offset = 0 ↔ (s.content - s.viewport) ⌈/⌉ s.viewport ≤ k) ∧
      (∀ k, (s.repeated .pageUp k).offset ≤ (s.repeated .pageUp (k + 1)).offset + s.viewport) ∧
      ∀ i < s.content, ∃ k ≤ (s.content - s.viewport) ⌈/⌉ s.viewport,
        (s.repeated .pageUp k).InView i) ∧
    (∀ w : WordScroll, 1 ≤ w.viewport.toNat → ∀ k,
      ((w.operate .toTop).after (List.replicate k .pageDown)).offset.toNat =
        min (k * w.viewport.toNat) (w.content.toNat - w.viewport.toNat)) ∧
    ∀ (capacity : ℕ) (limit : Option ℕ) (level : LevelFilter) (moves : List Move)
      (deeds : List Deed),
      let r := (opened capacity limit level moves).after deeds
      let height := r.view.scroll.viewport
      let count := (r.view.visible.length - height) ⌈/⌉ height
      let down := fun k => (r.after (.scroll .toTop :: List.replicate k (.scroll .pageDown))).view
      let up := fun k => (r.after (.scroll .toLatest :: List.replicate k (.scroll .pageUp))).view
      1 ≤ height →
        (∀ k, (down k).scroll.offset = min (k * height) (r.view.visible.length - height) ∧
          (down k).window = (r.view.visible.drop (down k).scroll.offset).take height) ∧
        (∀ k, (up k).scroll.offset = r.view.visible.length - height - k * height ∧
          (up k).window = (r.view.visible.drop (up k).scroll.offset).take height) ∧
        ∀ x ∈ r.view.visible,
          (∃ k ≤ count, x ∈ (down k).window) ∧ ∃ k ≤ count, x ∈ (up k).window := by
  refine ⟨?_, ?_, fun w h k => WordScroll.toTop_repeated_offset h k, ?_⟩
  · intro s h
    refine ⟨toTop_repeated_offset h, toTop_repeated_bottom_iff h,
      fun k hk => toTop_repeated_of_le h hk, fun k => ?_, fun i hi => toTop_repeated_inView h hi⟩
    rw [toTop_repeated_offset h, toTop_repeated_offset h, Nat.succ_mul]
    omega
  · intro s h hbottom
    refine ⟨repeated_pageUp_offset h hbottom, repeated_pageUp_top_iff h hbottom, fun k => ?_,
      fun i hi => repeated_pageUp_inView h hbottom hi⟩
    rw [repeated_pageUp_offset h hbottom, repeated_pageUp_offset h hbottom, Nat.succ_mul]
    omega
  · intro capacity limit level moves deeds r height count down up h
    have hcoherent : r.view.Coherent :=
      ((opened_sound capacity limit level moves).after deeds).coherent
    have hcontent : r.view.scroll.content = r.view.visible.length := hcoherent.content_eq
    -- scrolls leave the records alone, so all pages are taken from what is visible now
    have hcount : r.view.scroll.pageCount = count := by
      rw [pageCount, maxOffset, hcontent]
    have hdown (k : ℕ) : down k = r.view.scrollBy (·.toTop.repeated .pageDown k) :=
      (r.step (.scroll .toTop)).after_scrolls .pageDown k
    have hup (k : ℕ) : up k = r.view.scrollBy (·.toLatest.repeated .pageUp k) :=
      (r.step (.scroll .toLatest)).after_scrolls .pageUp k
    refine ⟨fun k => ?_, fun k => ?_, fun x hx => ?_⟩
    · rw [hdown]
      exact View.pages_down hcontent h k
    · rw [hup]
      exact View.pages_up hcontent h k
    · simp only [hdown, hup, ← hcount]
      exact View.mem_window_of_pages hcontent h hx

/-- Twenty-five units in a viewport of ten: the third page down is not a whole one. -/
theorem pages_cover_short_last :
    let s := (Scroll.new (.units 1)).after [.setViewport 10, .setContent 25]
    1 ≤ s.viewport ∧ (s.toTop.repeated .pageDown 1).offset = 10 ∧
      (s.toTop.repeated .pageDown 2).offset = 15 ∧
      s.toTop.repeated .pageDown 3 = s.toTop.repeated .pageDown 2 ∧
      (s.repeated .pageUp 2).offset = 0 := by
  intro s
  have hviewport : 1 ≤ s.viewport := by decide
  obtain ⟨hoffset, -, hstop, -⟩ := pages_cover.1 s hviewport
  obtain ⟨-, htop, -⟩ := pages_cover.2.1 s hviewport (by decide)
  exact ⟨hviewport, hoffset 1, hoffset 2, hstop 2 (by decide), (htop 2).mpr (by decide)⟩

end Reader

end LogTail

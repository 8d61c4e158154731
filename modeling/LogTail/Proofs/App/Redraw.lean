import LogTail.Proofs.App.Run

/-!
Drawing the screen again. Every drawing tells the view how high the list of records is, and a viewport
that is pinned goes to the bottom then, although nothing has changed. A reader who scrolls up by less
than the threshold is still pinned, and so is taken back by the next drawing.
-/
namespace LogTail

def Scroll.Gesture.action : Scroll.Gesture → Action
  | .up n => .scrollUp n
  | .down n => .scrollDown n
  | .pageUp => .pageUp
  | .pageDown => .pageDown
  | .toTop => .scrollToTop
  | .toLatest => .jumpToLatest

namespace App

open Scroll (Gesture)

theorem act_gesture (a : App) (g : Gesture) :
    (a.act g.action).1 = { a with view := a.view.scrollBy (·.follow g), dirty := true } := by
  cases g <;> rfl

def listHeight (a : App) (screen : Screen.Area) : ℕ :=
  (Display.Bands.ofArea screen (Display.showsFilterBar a)).logs.height - 2

theorem scroll_drawn (a : App) (screen : Screen.Area) :
    (a.meet (.drawn screen)).1.view.scroll = a.view.scroll.setViewport (a.listHeight screen) :=
  rfl

theorem listHeight_drawn (a : App) (screen : Screen.Area) :
    (a.meet (.drawn screen)).1.listHeight screen = a.listHeight screen :=
  rfl

theorem listHeight_act_gesture (a : App) (g : Gesture) (screen : Screen.Area) :
    (a.act g.action).1.listHeight screen = a.listHeight screen := by
  rw [act_gesture]
  rfl

/-- To draw the screen several times is to draw it once. -/
theorem scroll_after_drawn (a : App) (screen : Screen.Area) (n : ℕ) :
    (a.after (List.replicate (n + 1) (.drawn screen))).view.scroll =
      a.view.scroll.setViewport (a.listHeight screen) := by
  induction n generalizing a with
  | zero => exact a.scroll_drawn screen
  | succ n ih =>
    rw [List.replicate_succ, after_cons, ih, scroll_drawn, listHeight_drawn]
    exact a.view.scroll.setViewport_idempotent _

/-- A drawing finds the viewport as high as the last one left it, if the reader has only scrolled. -/
theorem listHeight_scrolled (a : App) (screen : Screen.Area) (g : Gesture) :
    let b := ((a.meet (.drawn screen)).1.act g.action).1
    b.listHeight screen = b.view.scroll.viewport := by
  intro b
  have hscroll : b.view.scroll = (a.meet (.drawn screen)).1.view.scroll.follow g := by
    rw [show b = _ from act_gesture _ g]
    rfl
  rw [hscroll, Scroll.follow_viewport, scroll_drawn, Scroll.setViewport_viewport]
  exact listHeight_act_gesture _ g screen

/-- The height that the viewport has already leaves it where it is, unless it is pinned above the
bottom. So drawings leave the reader where he has scrolled to, unless that is above the bottom and
nearer to it than the threshold. -/
theorem redrawn_in_place_iff (threshold : PinThreshold) :
    (∀ ops : List Scroll.Operation,
      let s := (Scroll.new threshold).after ops
      (s.setViewport s.viewport).pinned = s.pinned ∧
      ((s.setViewport s.viewport).offset = s.offset ↔ ¬ (s.pinned = true ∧ 0 < s.distance))) ∧
    ∀ (url : String) (snapshot : Snapshot) (past : List Happening) (screen : Screen.Area)
      (g : Gesture) (n : ℕ),
      let a := (opened url snapshot threshold).after (past ++ [.drawn screen])
      let b := (a.act g.action).1
      let c := b.after (List.replicate (n + 1) (.drawn screen))
      c.view.scroll.offset = b.view.scroll.offset ↔
        ¬ (0 < b.view.scroll.distance ∧
          b.view.scroll.distance < b.view.scroll.thresholdUnits) := by
  constructor
  · intro ops s
    have hrange : s.InRange := (Scroll.new_inRange threshold).after ops
    exact ⟨s.setViewport_pinned _, Scroll.setViewport_same_offset_iff hrange⟩
  · intro url snapshot past screen g n a b c
    have hdrawn : a = (((opened url snapshot threshold).after past).meet (.drawn screen)).1 :=
      after_concat _ past _
    have hheight : b.listHeight screen = b.view.scroll.viewport := by
      simp only [b, hdrawn]
      exact listHeight_scrolled _ screen g
    have hscroll : b.view.scroll = a.view.scroll.follow g := by
      rw [show b = _ from a.act_gesture g]
      rfl
    have hrange : b.view.scroll.InRange := by
      rw [hscroll]
      exact a.view.scroll.follow_inRange g
    -- the drawings come to one, and that one sets the height there is
    have hdrawings : c.view.scroll = b.view.scroll.setViewport b.view.scroll.viewport := by
      rw [← hheight]
      exact b.scroll_after_drawn screen n
    rw [hdrawings, Scroll.setViewport_same_offset_iff hrange, hscroll,
      Scroll.follow_pinned_above_iff]

/-- One row up from the bottom, with a threshold of three rows, is undone by the next drawing. -/
theorem scrolling_is_undone :
    let s := (Scroll.new (.units 3)).after [.setViewport 10, .setContent 50, .follow (.up 1)]
    s.offset = 39 ∧ s.pinned = true ∧ (s.setViewport s.viewport).offset = 40 := by
  decide

end App

end LogTail

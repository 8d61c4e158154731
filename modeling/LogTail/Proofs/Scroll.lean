import LogTail.Scroll

/-!
The offset stays in range. Every operation on a viewport leaves it at an offset from which there is
content down to the bottom, and only a change of content changes the length of the content. Setting the
height that the viewport has already brings a pinned viewport to the bottom, and does nothing else.
-/
namespace LogTail

namespace Scroll

/-- Whether there is content for the whole viewport from the offset on, or the offset is zero. -/
def InRange (s : Scroll) : Prop :=
  s.offset ≤ s.maxOffset

theorem new_inRange (threshold : PinThreshold) : (new threshold).InRange :=
  Nat.zero_le _

theorem settle_inRange (s : Scroll) : s.settle.1.InRange := by
  unfold settle
  split
  · exact Nat.le_refl _
  · exact Nat.min_le_right _ _

@[simp] theorem settle_content (s : Scroll) : s.settle.1.content = s.content := by
  unfold settle
  split <;> rfl

@[simp] theorem settle_viewport (s : Scroll) : s.settle.1.viewport = s.viewport := by
  unfold settle
  split <;> rfl

theorem setViewport_inRange (s : Scroll) (height : Nat) : (s.setViewport height).InRange :=
  settle_inRange _

@[simp] theorem setViewport_content (s : Scroll) (height : Nat) :
    (s.setViewport height).content = s.content :=
  settle_content _

@[simp] theorem setViewport_viewport (s : Scroll) (height : Nat) :
    (s.setViewport height).viewport = height :=
  settle_viewport _

theorem setContent_inRange (s : Scroll) (length : Nat) : (s.setContent length).1.InRange :=
  settle_inRange _

@[simp] theorem setContent_content (s : Scroll) (length : Nat) :
    (s.setContent length).1.content = length :=
  settle_content _

@[simp] theorem setContent_viewport (s : Scroll) (length : Nat) :
    (s.setContent length).1.viewport = s.viewport :=
  settle_viewport _

theorem scrollTo_inRange (s : Scroll) (offset : Nat) : (s.scrollTo offset).InRange :=
  Nat.min_le_right _ _

theorem toLatest_inRange (s : Scroll) : s.toLatest.InRange :=
  Nat.le_refl _

theorem anchorAt_inRange (s : Scroll) (offset : Nat) : (s.anchorAt offset).InRange :=
  Nat.min_le_right _ _

theorem settle_pinned (s : Scroll) : s.settle.1.pinned = s.pinned := by
  unfold settle
  split <;> rfl

@[simp] theorem setViewport_pinned (s : Scroll) (height : Nat) :
    (s.setViewport height).pinned = s.pinned :=
  settle_pinned _

theorem settle_offset_of_pinned {s : Scroll} (h : s.pinned = true) :
    s.settle.1.offset = s.maxOffset := by
  rw [settle, if_pos h]

theorem settle_offset_of_released {s : Scroll} (h : s.pinned = false) :
    s.settle.1.offset = min s.offset s.maxOffset := by
  rw [settle, if_neg (by simp [h])]

/-- The height a viewport has already is set without moving it, unless it is pinned above the
bottom. -/
theorem setViewport_same_offset_iff {s : Scroll} (h : s.InRange) :
    (s.setViewport s.viewport).offset = s.offset ↔ ¬ (s.pinned = true ∧ 0 < s.distance) := by
  unfold InRange at h
  cases hpinned : s.pinned with
  | true =>
    have hoffset : (s.setViewport s.viewport).offset = s.maxOffset := settle_offset_of_pinned hpinned
    rw [hoffset, distance]
    simp only [true_and]
    omega
  | false =>
    have hoffset : (s.setViewport s.viewport).offset = min s.offset s.maxOffset :=
      settle_offset_of_released hpinned
    rw [hoffset, Nat.min_eq_left h]
    simp

/-- What is set a second time is set already. -/
theorem setViewport_idempotent (s : Scroll) (height : Nat) :
    (s.setViewport height).setViewport height = s.setViewport height := by
  unfold setViewport settle maxOffset
  cases hpinned : s.pinned <;> simp

inductive Gesture
  | up (n : Nat)
  | down (n : Nat)
  | pageUp
  | pageDown
  | toTop
  | toLatest
  deriving DecidableEq

def follow (s : Scroll) : Gesture → Scroll
  | .up n => s.up n
  | .down n => s.down n
  | .pageUp => s.pageUp
  | .pageDown => s.pageDown
  | .toTop => s.toTop
  | .toLatest => s.toLatest

theorem follow_inRange (s : Scroll) (g : Gesture) : (s.follow g).InRange := by
  cases g with
  | toLatest => exact s.toLatest_inRange
  | _ => exact s.scrollTo_inRange _

@[simp] theorem follow_content (s : Scroll) (g : Gesture) : (s.follow g).content = s.content := by
  cases g <;> rfl

@[simp] theorem follow_viewport (s : Scroll) (g : Gesture) :
    (s.follow g).viewport = s.viewport := by
  cases g <;> rfl

/-- After a gesture the viewport is pinned above the bottom where it is near enough to it. -/
theorem follow_pinned_above_iff (s : Scroll) (g : Gesture) :
    ((s.follow g).pinned = true ∧ 0 < (s.follow g).distance) ↔
      0 < (s.follow g).distance ∧ (s.follow g).distance < (s.follow g).thresholdUnits := by
  cases g with
  | toLatest =>
    have hbottom : s.toLatest.distance = 0 := Nat.sub_self _
    change (_ ∧ 0 < s.toLatest.distance) ↔ 0 < s.toLatest.distance ∧ _
    simp [hbottom]
  | _ =>
    rw [and_comm]
    exact and_congr_right fun _ => decide_eq_true_iff

inductive Operation
  | setViewport (height : Nat)
  | setContent (length : Nat)
  | scrollTo (offset : Nat)
  | follow (g : Gesture)
  | anchorAt (offset : Nat)

def operate (s : Scroll) : Operation → Scroll
  | .setViewport height => s.setViewport height
  | .setContent length => (s.setContent length).1
  | .scrollTo offset => s.scrollTo offset
  | .follow g => s.follow g
  | .anchorAt offset => s.anchorAt offset

def after (s : Scroll) (ops : List Operation) : Scroll :=
  ops.foldl operate s

/-- Every operation ends within the content, also from a viewport that was not. -/
theorem operate_inRange (s : Scroll) (op : Operation) : (s.operate op).InRange := by
  cases op with
  | setViewport height => exact s.setViewport_inRange height
  | setContent length => exact s.setContent_inRange length
  | scrollTo offset => exact s.scrollTo_inRange offset
  | follow g => exact s.follow_inRange g
  | anchorAt offset => exact s.anchorAt_inRange offset

/-- The same of a run of operations. -/
theorem InRange.after {s : Scroll} (h : s.InRange) (ops : List Operation) :
    (s.after ops).InRange := by
  induction ops generalizing s with
  | nil => exact h
  | cons op rest ih => exact ih (s.operate_inRange op)

end Scroll

end LogTail

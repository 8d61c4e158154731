import LogTail.Proofs.Scroll

/-!
Coming back to the bottom. A reader who scrolls to the bottom pins the viewport there again, and from then
on it follows the content, if the threshold leaves room for a distance of zero. A threshold of zero units
does not: no distance lies below it, and no scroll pins the viewport any more.
-/
namespace LogTail.Scroll

@[simp] theorem settle_threshold (s : Scroll) : s.settle.1.threshold = s.threshold := by
  unfold settle
  split <;> rfl

@[simp] theorem operate_threshold (s : Scroll) (op : Operation) :
    (s.operate op).threshold = s.threshold := by
  cases op with
  | setViewport height => exact settle_threshold _
  | setContent length => exact settle_threshold _
  | scrollTo offset => rfl
  | follow g => cases g <;> rfl
  | anchorAt offset => rfl

@[simp] theorem after_threshold (s : Scroll) (ops : List Operation) :
    (s.after ops).threshold = s.threshold := by
  induction ops generalizing s with
  | nil => rfl
  | cons op rest ih => exact (ih (s.operate op)).trans (s.operate_threshold op)

theorem after_append (s : Scroll) (ops more : List Operation) :
    s.after (ops ++ more) = (s.after ops).after more :=
  List.foldl_append

/-- Shares of the viewport are kept above zero; a number of units is taken as it is. -/
theorem thresholdUnits_pos_iff (s : Scroll) : 0 < s.thresholdUnits ↔ s.threshold ≠ .units 0 := by
  unfold thresholdUnits
  cases s.threshold with
  | units n => simp [Nat.pos_iff_ne_zero]
  | share f => simp [Nat.lt_of_lt_of_le Nat.one_pos (Nat.le_max_right _ 1)]

/-- Whether the viewport goes to the newest record with every change of the content. -/
def Follows (s : Scroll) : Prop :=
  ∀ length, (s.setContent length).2 = .followLatest ∧
    (s.setContent length).1.offset = (s.setContent length).1.maxOffset

/-- To follow the log is to be pinned: only a pinned viewport goes along with every change. -/
theorem follows_iff_pinned (s : Scroll) : s.Follows ↔ s.pinned = true := by
  unfold Follows setContent settle
  cases s.pinned with
  | true => simp [maxOffset]
  | false => simp

/-- Whether an operation is a scroll of the reader, other than a jump to the latest record. -/
def Operation.IsScroll : Operation → Prop
  | .scrollTo _ => True
  | .follow g => g ≠ .toLatest
  | _ => False

/-- Every scroll of the reader goes to some offset. -/
theorem Operation.IsScroll.eq_scrollTo {op : Operation} (h : op.IsScroll) (s : Scroll) :
    ∃ offset, s.operate op = s.scrollTo offset := by
  cases op with
  | scrollTo offset => exact ⟨offset, rfl⟩
  | follow g =>
    cases g with
    | up n => exact ⟨s.offset - n, rfl⟩
    | down n => exact ⟨s.offset + n, rfl⟩
    | pageUp => exact ⟨s.offset - max s.viewport 1, rfl⟩
    | pageDown => exact ⟨s.offset + max s.viewport 1, rfl⟩
    | toTop => exact ⟨0, rfl⟩
    | toLatest => exact absurd rfl h
  | setViewport height => exact h.elim
  | setContent length => exact h.elim
  | anchorAt offset => exact h.elim

/-- At the bottom the distance is zero, and so the threshold alone decides. -/
theorem scrollTo_follows_iff {s : Scroll} {offset : Nat}
    (h : (s.scrollTo offset).offset = s.maxOffset) :
    (s.scrollTo offset).Follows ↔ s.threshold ≠ .units 0 := by
  have hdistance : (s.scrollTo offset).distance = 0 := by
    rw [distance, h]
    exact Nat.sub_self _
  have hpinned : (s.scrollTo offset).pinned = true ↔
      (s.scrollTo offset).distance < (s.scrollTo offset).thresholdUnits := decide_eq_true_iff
  rw [follows_iff_pinned, hpinned, hdistance, thresholdUnits_pos_iff]
  rfl

theorem scrollTo_offset_of_le {s : Scroll} {offset : Nat} (h : s.maxOffset ≤ offset) :
    (s.scrollTo offset).offset = s.maxOffset :=
  Nat.min_eq_right h

def repeated (s : Scroll) (g : Gesture) (k : Nat) : Scroll :=
  s.after (List.replicate k (.follow g))

theorem repeated_succ (s : Scroll) (g : Gesture) (k : Nat) :
    s.repeated g (k + 1) = (s.repeated g k).follow g := by
  unfold repeated
  rw [List.replicate_succ', after_append]
  rfl

@[simp] theorem repeated_viewport (s : Scroll) (g : Gesture) (k : Nat) :
    (s.repeated g k).viewport = s.viewport := by
  induction k with
  | zero => rfl
  | succ k ih => rw [repeated_succ, follow_viewport, ih]

@[simp] theorem repeated_content (s : Scroll) (g : Gesture) (k : Nat) :
    (s.repeated g k).content = s.content := by
  induction k with
  | zero => rfl
  | succ k ih => rw [repeated_succ, follow_content, ih]

theorem repeated_maxOffset (s : Scroll) (g : Gesture) (k : Nat) :
    (s.repeated g k).maxOffset = s.maxOffset := by
  rw [maxOffset, repeated_content, repeated_viewport, maxOffset]

/-- Pages down move the viewport by whole heights until the bottom stops it. -/
theorem repeated_pageDown_offset {s : Scroll} (h : s.InRange) (k : Nat) :
    (s.repeated .pageDown k).offset = min (s.offset + k * max s.viewport 1) s.maxOffset := by
  induction k with
  | zero =>
    change s.offset = _
    unfold InRange at h
    omega
  | succ k ih =>
    have hpage : ((s.repeated .pageDown k).follow .pageDown).offset =
        min ((s.repeated .pageDown k).offset + max (s.repeated .pageDown k).viewport 1)
          (s.repeated .pageDown k).maxOffset :=
      rfl
    rw [repeated_succ, hpage, ih, repeated_viewport, repeated_maxOffset, Nat.succ_mul]
    omega

/-- In every state that can be reached, the scrolls that end at the bottom make the viewport follow the
content, unless the threshold is zero units; then none of them does. Going past the end, going down by the
distance or more, and pages down that cover it are such scrolls. -/
theorem follows_again_iff (threshold : PinThreshold) (past : List Operation) :
    let s := (new threshold).after past
    (∀ op : Operation, op.IsScroll → (s.operate op).offset = s.maxOffset →
      ((s.operate op).Follows ↔ threshold ≠ .units 0)) ∧
    (∀ offset, s.maxOffset ≤ offset →
      ((s.scrollTo offset).Follows ↔ threshold ≠ .units 0)) ∧
    (∀ n, s.distance ≤ n → ((s.down n).Follows ↔ threshold ≠ .units 0)) ∧
    ∀ k, s.distance ≤ (k + 1) * max s.viewport 1 →
      ((s.repeated .pageDown (k + 1)).Follows ↔ threshold ≠ .units 0) := by
  intro s
  have hthreshold : s.threshold = threshold := after_threshold _ past
  have hrange : s.InRange := (new_inRange threshold).after past
  refine ⟨?_, ?_, ?_, ?_⟩
  · intro op hop hbottom
    obtain ⟨offset, hoffset⟩ := hop.eq_scrollTo s
    rw [hoffset] at hbottom ⊢
    rw [scrollTo_follows_iff hbottom, hthreshold]
  · intro offset hoffset
    rw [scrollTo_follows_iff (scrollTo_offset_of_le hoffset), hthreshold]
  · intro n hn
    have hoffset : s.maxOffset ≤ s.offset + n := by
      unfold distance at hn
      omega
    rw [down, scrollTo_follows_iff (scrollTo_offset_of_le hoffset), hthreshold]
  · intro k hk
    -- the last page is the scroll that ends at the bottom
    have hbottom : ((s.repeated .pageDown k).follow .pageDown).offset =
        (s.repeated .pageDown k).maxOffset := by
      rw [← repeated_succ, repeated_pageDown_offset hrange, repeated_maxOffset]
      unfold distance at hk
      omega
    have hkept : (s.repeated .pageDown k).threshold = threshold :=
      (after_threshold s _).trans hthreshold
    rw [repeated_succ, follow, pageDown, down, scrollTo_follows_iff hbottom, hkept]

theorem follows_again_iff_undefined :
    let s := (new (.share .undefined)).after [.setViewport 10, .setContent 50, .follow .toTop]
    (s.down 40).Follows :=
  ((follows_again_iff (.share .undefined)
    [.setViewport 10, .setContent 50, .follow .toTop]).2.2.1 40 (by decide)).2 (by decide)

/-- With a threshold of zero units a reader who returns to the bottom is not taken along. -/
theorem bottom_not_followed :
    let s := (new (.units 0)).after
      [.setViewport 10, .setContent 50, .follow .toTop, .follow (.down 40)]
    s.offset = s.maxOffset ∧ s.pinned = false ∧ (s.setContent 55).2 = .hold ∧
      (s.setContent 55).1.offset = 40 := by
  decide

end LogTail.Scroll

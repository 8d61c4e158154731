import LogTail.Proofs.Scroll.Words

/-!
Changes under a reader who does not scroll. Between two scrolls the content grows and shrinks, the viewport
is resized and the view puts its anchor back in place. A pinned viewport stays pinned and goes to the bottom
with every change; a released one stays where it is until the bottom passes it, and then stays there: its
offset is the least of where it began and of all the bottoms it has seen since.
-/
namespace LogTail.Scroll

def Operation.IsChange : Operation → Prop
  | .setViewport _ => True
  | .setContent _ => True
  | _ => False

/-- Whether an operation is one that the reader did not ask for. -/
def Operation.IsAdjustment : Operation → Prop
  | .anchorAt _ => True
  | op => op.IsChange

theorem Operation.IsChange.isAdjustment {op : Operation} (h : op.IsChange) : op.IsAdjustment := by
  cases op with
  | setViewport height => exact h
  | setContent length => exact h
  | _ => exact h.elim

def maxima (s : Scroll) : List Operation → List Nat
  | [] => []
  | op :: rest => (s.operate op).maxOffset :: (s.operate op).maxima rest

/-- A change comes before the offset is brought into range. -/
theorem Operation.IsChange.exists_settle {op : Operation} (h : op.IsChange) (s : Scroll) :
    ∃ t : Scroll, s.operate op = t.settle.1 ∧ t.pinned = s.pinned ∧ t.offset = s.offset := by
  cases op with
  | setViewport height => exact ⟨{ s with viewport := height }, rfl, rfl, rfl⟩
  | setContent length => exact ⟨{ s with content := length }, rfl, rfl, rfl⟩
  | _ => exact h.elim

theorem settle_maxOffset (s : Scroll) : s.settle.1.maxOffset = s.maxOffset := by
  rw [maxOffset, settle_content, settle_viewport, maxOffset]

theorem setContent_directive (s : Scroll) (length : Nat) :
    (s.setContent length).2 = if s.pinned then .followLatest else .hold := by
  unfold setContent settle
  split <;> rfl

/-- What the reader did not ask for pins no viewport and frees none. -/
theorem Operation.IsAdjustment.operate_pinned {op : Operation} (h : op.IsAdjustment) (s : Scroll) :
    (s.operate op).pinned = s.pinned := by
  cases op with
  | setViewport height => exact s.setViewport_pinned height
  | setContent length => exact settle_pinned _
  | anchorAt offset => rfl
  | scrollTo offset => exact h.elim
  | follow g => exact h.elim

/-- The same of a run of adjustments. -/
theorem after_pinned {s : Scroll} {ops : List Operation} (h : ∀ op ∈ ops, op.IsAdjustment) :
    (s.after ops).pinned = s.pinned := by
  induction ops generalizing s with
  | nil => rfl
  | cons op rest ih =>
    rw [List.forall_mem_cons] at h
    exact (ih h.2).trans (h.1.operate_pinned s)

/-- A change takes a pinned viewport to the bottom. -/
theorem Operation.IsChange.offset_of_pinned {op : Operation} (h : op.IsChange) {s : Scroll}
    (hpinned : s.pinned = true) : (s.operate op).offset = (s.operate op).maxOffset := by
  obtain ⟨t, hop, htp, -⟩ := h.exists_settle s
  rw [hop, settle_maxOffset]
  exact settle_offset_of_pinned (htp.trans hpinned)

/-- A change moves a released viewport only where the bottom passes it. -/
theorem Operation.IsChange.offset_of_released {op : Operation} (h : op.IsChange) {s : Scroll}
    (hpinned : s.pinned = false) :
    (s.operate op).offset = min s.offset (s.operate op).maxOffset := by
  obtain ⟨t, hop, htp, hto⟩ := h.exists_settle s
  rw [hop, settle_maxOffset, ← hto]
  exact settle_offset_of_released (htp.trans hpinned)

/-- The offset of a released viewport remembers the shortest content it has seen. -/
theorem after_offset_of_released {s : Scroll} {ops : List Operation} (h : ∀ op ∈ ops, op.IsChange)
    (hpinned : s.pinned = false) : (s.after ops).offset = (s.maxima ops).foldl min s.offset := by
  induction ops generalizing s with
  | nil => rfl
  | cons op rest ih =>
    rw [List.forall_mem_cons] at h
    have hnext : (s.operate op).pinned = false := (h.1.isAdjustment.operate_pinned s).trans hpinned
    calc ((s.operate op).after rest).offset
        = ((s.operate op).maxima rest).foldl min (s.operate op).offset := ih h.2 hnext
      _ = ((s.operate op).maxima rest).foldl min (min s.offset (s.operate op).maxOffset) := by
          rw [h.1.offset_of_released hpinned]

theorem foldl_min_eq_self {n : Nat} {bounds : List Nat} (h : ∀ bound ∈ bounds, n ≤ bound) :
    bounds.foldl min n = n := by
  induction bounds with
  | nil => rfl
  | cons bound rest ih =>
    rw [List.forall_mem_cons] at h
    rw [List.foldl_cons, Nat.min_eq_left h.1]
    exact ih h.2

/-- While the height stays, the greatest offsets follow from the lengths of the content. -/
theorem maxima_setContent (s : Scroll) (lengths : List Nat) :
    s.maxima (lengths.map .setContent) = lengths.map (· - s.viewport) := by
  induction lengths generalizing s with
  | nil => rfl
  | cons length rest ih =>
    have hviewport : (s.operate (.setContent length)).viewport = s.viewport :=
      s.setContent_viewport length
    have hmax : (s.operate (.setContent length)).maxOffset = length - s.viewport := settle_maxOffset _
    rw [List.map_cons, maxima, ih, hviewport, hmax, List.map_cons]

/-- Content that never gets shorter than it was does not move a released viewport. -/
theorem growth_offset_of_released {s : Scroll} (h : s.InRange) (hpinned : s.pinned = false)
    {lengths : List Nat} (hlengths : ∀ length ∈ lengths, s.content ≤ length) :
    (s.after (lengths.map .setContent)).offset = s.offset := by
  have hchanges : ∀ op ∈ lengths.map Operation.setContent, op.IsChange := by
    intro op hop
    obtain ⟨length, -, rfl⟩ := List.mem_map.mp hop
    trivial
  have hbounds : ∀ bound ∈ lengths.map (· - s.viewport), s.offset ≤ bound := by
    intro bound hbound
    obtain ⟨length, hlength, rfl⟩ := List.mem_map.mp hbound
    exact Nat.le_trans h (Nat.sub_le_sub_right (hlengths length hlength) _)
  rw [after_offset_of_released hchanges hpinned, maxima_setContent]
  exact foldl_min_eq_self hbounds

/-- In every state that can be reached the offset is in range. From there on, as long as the reader does
not scroll, pinned stays pinned and released stays released; every change takes a pinned viewport to the
bottom and has the newest record followed, while a released one holds, at the least of its offset and of
the bottoms it has seen, which growing content does not touch. Carried out in words of 64 bits, all of it
comes to the same numbers. -/
theorem adjustments_keep_place (threshold : PinThreshold) (past : List Operation) :
    let s := (new threshold).after past
    s.offset ≤ s.maxOffset ∧
    (∀ ops : List Operation, (∀ op ∈ ops, op.IsAdjustment) →
      (s.after ops).pinned = s.pinned ∧
      (s.pinned = true →
        (∀ op : Operation, op.IsChange →
          (s.after (ops ++ [op])).offset = (s.after (ops ++ [op])).maxOffset) ∧
        ∀ length, ((s.after ops).setContent length).2 = .followLatest) ∧
      (s.pinned = false → ∀ length, ((s.after ops).setContent length).2 = .hold)) ∧
    (s.pinned = false →
      (∀ changes : List Operation, (∀ op ∈ changes, op.IsChange) →
        (s.after changes).offset = (s.maxima changes).foldl min s.offset) ∧
      ∀ lengths : List Nat, (∀ length ∈ lengths, s.content ≤ length) →
        (s.after (lengths.map .setContent)).offset = s.offset) ∧
    ∀ (wordThreshold : WordThreshold) (ops : List WordOperation),
      let w := (WordScroll.new wordThreshold).after ops
      let t := (new wordThreshold.number).after (ops.map WordOperation.number)
      w.number = t ∧ w.maxOffset.toNat = t.maxOffset ∧ w.distance.toNat = t.distance ∧
        w.thresholdUnits.toNat = t.thresholdUnits := by
  intro s
  have hrange : s.InRange := (new_inRange threshold).after past
  refine ⟨hrange, ?_, ?_, ?_⟩
  · intro ops hops
    have hpinned : (s.after ops).pinned = s.pinned := after_pinned hops
    refine ⟨hpinned, fun h => ⟨fun op hop => ?_, fun length => ?_⟩, fun h length => ?_⟩
    · rw [after_append]
      exact hop.offset_of_pinned (hpinned.trans h)
    · rw [setContent_directive, hpinned, h, if_pos rfl]
    · rw [setContent_directive, hpinned, h, if_neg Bool.false_ne_true]
  · intro h
    exact ⟨fun changes hchanges => after_offset_of_released hchanges h,
      fun lengths hlengths => growth_offset_of_released hrange h hlengths⟩
  · intro wordThreshold ops w t
    have hnumber : w.number = t := WordScroll.number_after _ ops
    rw [← hnumber]
    exact ⟨rfl, w.toNat_maxOffset, w.toNat_distance, w.toNat_thresholdUnits⟩

/-- A reader who scrolled up by thirty, past content that shrinks and grows again, and one who stayed at
the bottom. -/
theorem adjustments_keep_place_shrunk :
    let released := (new (.units 5)).after [.setViewport 10, .setContent 50, .follow (.up 30)]
    let changes : List Operation := [.setContent 60, .setContent 14, .setContent 80]
    let pinned := (new (.units 5)).after [.setViewport 10]
    ((∀ op ∈ changes, op.IsChange) ∧ released.pinned = false ∧ released.maxima changes = [50, 4, 70] ∧
      (released.after changes).offset = 4) ∧
    pinned.pinned = true ∧
      (pinned.after ([.setContent 60, .anchorAt 3] ++ [.setViewport 20])).offset = 40 := by
  have hchanges : ∀ op ∈ [Operation.setContent 60, .setContent 14, .setContent 80], op.IsChange := by
    simp [Operation.IsChange]
  have hreleased := ((adjustments_keep_place (.units 5)
    [.setViewport 10, .setContent 50, .follow (.up 30)]).2.2.1 rfl).1 _ hchanges
  have hpinned := ((adjustments_keep_place (.units 5) [.setViewport 10]).2.1
    [.setContent 60, .anchorAt 3] (by simp [Operation.IsAdjustment, Operation.IsChange])).2.1 rfl
  exact ⟨⟨hchanges, rfl, rfl, hreleased⟩, rfl, hpinned.1 (.setViewport 20) trivial⟩

end LogTail.Scroll

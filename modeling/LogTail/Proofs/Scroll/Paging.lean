import Mathlib.Algebra.Order.Floor.Div
import LogTail.Proofs.Scroll.Words

/-!
Reading page by page. Pages down from the top move the viewport by its height until the bottom stops it, and
pages up from the bottom until the top does. Each begins where the one before it ends or earlier, so that all
of the content is seen on the way.
-/
namespace LogTail.Scroll

variable {s : Scroll} {i k : ℕ}

def InView (s : Scroll) (i : ℕ) : Prop :=
  s.offset ≤ i ∧ i < s.offset + s.viewport

def pageCount (s : Scroll) : ℕ :=
  s.maxOffset ⌈/⌉ s.viewport

theorem pageCount_le_iff (h : 1 ≤ s.viewport) : s.pageCount ≤ k ↔ s.maxOffset ≤ k * s.viewport := by
  rw [pageCount, ceilDiv_le_iff_le_mul h, Nat.mul_comm]

/-- A page that begins before the end of the content is one of those that are counted. -/
theorem le_pageCount (h : 1 ≤ s.viewport) (hk : k * s.viewport < s.maxOffset + s.viewport) :
    k ≤ s.pageCount := by
  have hcount : s.maxOffset ≤ s.pageCount * s.viewport := (pageCount_le_iff h).mp (Nat.le_refl _)
  have hlt : k * s.viewport < (s.pageCount + 1) * s.viewport := by
    rw [Nat.succ_mul]
    omega
  exact Nat.le_of_lt_succ (Nat.lt_of_mul_lt_mul_right hlt)

/-- A unit is on the page that its number is divided by the height to. -/
theorem page_bounds (h : 1 ≤ s.viewport) (i : ℕ) :
    i / s.viewport * s.viewport ≤ i ∧ i < i / s.viewport * s.viewport + s.viewport := by
  refine ⟨Nat.div_mul_le_self i _, ?_⟩
  rw [← Nat.succ_mul, Nat.mul_comm]
  exact Nat.lt_mul_div_succ i h

/-- From the top `k` pages lead `k` viewports down, but not beyond the bottom. -/
theorem toTop_repeated_offset (h : 1 ≤ s.viewport) (k : ℕ) :
    (s.toTop.repeated .pageDown k).offset = min (k * s.viewport) (s.content - s.viewport) := by
  have htop : s.toTop.offset = 0 := Nat.zero_min _
  have hviewport : max s.toTop.viewport 1 = s.viewport := Nat.max_eq_left h
  have hrange : s.toTop.InRange := s.scrollTo_inRange 0
  rw [repeated_pageDown_offset hrange, htop, hviewport, Nat.zero_add]
  rfl

theorem toTop_repeated_bottom_iff (h : 1 ≤ s.viewport) (k : ℕ) :
    (s.toTop.repeated .pageDown k).offset = s.maxOffset ↔ s.pageCount ≤ k := by
  rw [toTop_repeated_offset h, pageCount_le_iff h]
  exact min_eq_right_iff

/-- A scroll that comes to where the viewport is does nothing, after another scroll. -/
theorem scrollTo_eq_self {offset : ℕ} (hoffset : min offset s.maxOffset = s.offset)
    (hpinned : s.pinned = decide (s.distance < s.thresholdUnits)) : s.scrollTo offset = s := by
  rw [scrollTo, hoffset]
  exact congrArg (fun pinned => ({ s with pinned := pinned } : Scroll)) hpinned.symm

/-- Once the bottom is reached further pages change nothing. -/
theorem toTop_repeated_of_le (h : 1 ≤ s.viewport) (hk : s.pageCount ≤ k) :
    s.toTop.repeated .pageDown (k + 1) = s.toTop.repeated .pageDown k := by
  have hmax : (s.toTop.repeated .pageDown k).maxOffset = s.maxOffset :=
    s.toTop.repeated_maxOffset .pageDown k
  have hbottom : (s.toTop.repeated .pageDown k).offset = s.maxOffset :=
    (toTop_repeated_bottom_iff h k).mpr hk
  rw [repeated_succ, follow, pageDown, down]
  refine scrollTo_eq_self ?_ ?_
  · omega
  · -- the viewport has come here by a scroll already
    cases k with
    | zero => rfl
    | succ k => rw [repeated_succ]; rfl

/-- Every unit comes into view on the way down. -/
theorem toTop_repeated_inView (h : 1 ≤ s.viewport) (hi : i < s.content) :
    ∃ k ≤ s.pageCount, (s.toTop.repeated .pageDown k).InView i := by
  obtain ⟨hfirst, hlast⟩ := page_bounds h i
  have hmax : s.maxOffset = s.content - s.viewport := rfl
  refine ⟨i / s.viewport, le_pageCount h (by omega), ?_⟩
  have hviewport : (s.toTop.repeated .pageDown (i / s.viewport)).viewport = s.viewport :=
    s.toTop.repeated_viewport .pageDown _
  rw [InView, hviewport, toTop_repeated_offset h]
  omega

/-- From the bottom `k` pages lead `k` viewports up, but not beyond the top. -/
theorem repeated_pageUp_offset (h : 1 ≤ s.viewport) (hbottom : s.offset = s.maxOffset) (k : ℕ) :
    (s.repeated .pageUp k).offset = s.content - s.viewport - k * s.viewport := by
  induction k with
  | zero =>
    rw [Nat.zero_mul]
    exact hbottom
  | succ k ih =>
    have hpage : ((s.repeated .pageUp k).follow .pageUp).offset =
        min ((s.repeated .pageUp k).offset - max (s.repeated .pageUp k).viewport 1)
          (s.repeated .pageUp k).maxOffset :=
      rfl
    have hmax : (s.repeated .pageUp k).maxOffset = s.content - s.viewport :=
      s.repeated_maxOffset .pageUp k
    rw [repeated_succ, hpage, ih, repeated_viewport, hmax, Nat.max_eq_left h, Nat.succ_mul]
    omega

theorem repeated_pageUp_top_iff (h : 1 ≤ s.viewport) (hbottom : s.offset = s.maxOffset) (k : ℕ) :
    (s.repeated .pageUp k).offset = 0 ↔ s.pageCount ≤ k := by
  rw [repeated_pageUp_offset h hbottom, pageCount_le_iff h]
  exact Nat.sub_eq_zero_iff_le

/-- Every unit comes into view on the way up. -/
theorem repeated_pageUp_inView (h : 1 ≤ s.viewport) (hbottom : s.offset = s.maxOffset)
    (hi : i < s.content) : ∃ k ≤ s.pageCount, (s.repeated .pageUp k).InView i := by
  -- pages up are counted from the last unit
  obtain ⟨hfirst, hlast⟩ := page_bounds h (s.content - 1 - i)
  have hmax : s.maxOffset = s.content - s.viewport := rfl
  have hviewport : (s.repeated .pageUp ((s.content - 1 - i) / s.viewport)).viewport = s.viewport :=
    s.repeated_viewport .pageUp _
  refine ⟨(s.content - 1 - i) / s.viewport, le_pageCount h (by omega), ?_⟩
  rw [InView, hviewport, repeated_pageUp_offset h hbottom]
  omega

end LogTail.Scroll

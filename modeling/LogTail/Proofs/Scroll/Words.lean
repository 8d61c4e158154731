import LogTail.Proofs.Scroll.Bottom

/-!
The viewport in words of 64 bits. Positions are counted in natural numbers elsewhere; here the same
operations are carried out on words, with differences that stop at zero and sums that stop at the largest
word. Whatever the words, both give the same viewport: where a sum would pass the largest word it is cut
to the length of the content anyway, and a share of the viewport is never more than a word holds.
-/
namespace LogTail

open LogTail.Number

theorem Fraction.ceilShare_le (f : Fraction) (n : Nat) : f.ceilShare n ≤ greatestLength := by
  have hrounded (y : Magnitude) : min y.ceil greatestLength ≤ greatestLength := Nat.min_le_right _ _
  unfold ceilShare
  split
  case h_2 => split <;> simp
  case h_4 => split <;> simp [hrounded]
  all_goals exact Nat.zero_le _

def wordSub (a b : UInt64) : UInt64 :=
  if b ≤ a then a - b else 0

def wordAdd (a b : UInt64) : UInt64 :=
  if a ≤ a + b then a + b else .ofNat greatestLength

@[simp] theorem toNat_wordSub (a b : UInt64) : (wordSub a b).toNat = a.toNat - b.toNat := by
  unfold wordSub
  split
  case isTrue h => exact UInt64.toNat_sub_of_le a b h
  case isFalse h =>
    rw [UInt64.le_iff_toNat_le] at h
    simp
    omega

/-- A sum of words that would be too large is the largest word, which is the largest length. -/
theorem toNat_wordAdd (a b : UInt64) :
    (wordAdd a b).toNat = min (a.toNat + b.toNat) greatestLength := by
  have ha : a.toNat < 2 ^ 64 := a.toNat_lt
  have hb : b.toNat < 2 ^ 64 := b.toNat_lt
  have hsum : (a + b).toNat = (a.toNat + b.toNat) % 2 ^ 64 := UInt64.toNat_add a b
  unfold wordAdd greatestLength
  split
  case isTrue h =>
    rw [UInt64.le_iff_toNat_le] at h
    omega
  case isFalse h =>
    rw [UInt64.le_iff_toNat_le] at h
    change 18446744073709551615 = _
    omega

@[simp] theorem toNat_wordMin (a b : UInt64) : (min a b).toNat = min a.toNat b.toNat := by
  change (if a ≤ b then a else b).toNat = _
  split
  case isTrue h => exact (Nat.min_eq_left (UInt64.le_iff_toNat_le.mp h)).symm
  case isFalse h =>
    rw [UInt64.le_iff_toNat_le] at h
    exact (Nat.min_eq_right (Nat.le_of_not_le h)).symm

@[simp] theorem toNat_wordMax (a b : UInt64) : (max a b).toNat = max a.toNat b.toNat := by
  change (if a ≤ b then b else a).toNat = _
  split
  case isTrue h => exact (Nat.max_eq_right (UInt64.le_iff_toNat_le.mp h)).symm
  case isFalse h =>
    rw [UInt64.le_iff_toNat_le] at h
    exact (Nat.max_eq_left (Nat.le_of_not_le h)).symm

inductive WordThreshold
  | units (n : UInt64)
  | share (fraction : Fraction)

def WordThreshold.number : WordThreshold → PinThreshold
  | .units n => .units n.toNat
  | .share f => .share f

structure WordScroll where
  pinned : Bool
  offset : UInt64
  content : UInt64
  viewport : UInt64
  threshold : WordThreshold

inductive WordOperation
  | setViewport (height : UInt64)
  | setContent (length : UInt64)
  | scrollTo (offset : UInt64)
  | up (n : UInt64)
  | down (n : UInt64)
  | pageUp
  | pageDown
  | toTop
  | toLatest
  | anchorAt (offset : UInt64)

def WordOperation.number : WordOperation → Scroll.Operation
  | .setViewport height => .setViewport height.toNat
  | .setContent length => .setContent length.toNat
  | .scrollTo offset => .scrollTo offset.toNat
  | .up n => .follow (.up n.toNat)
  | .down n => .follow (.down n.toNat)
  | .pageUp => .follow .pageUp
  | .pageDown => .follow .pageDown
  | .toTop => .follow .toTop
  | .toLatest => .follow .toLatest
  | .anchorAt offset => .anchorAt offset.toNat

namespace WordScroll

def new (threshold : WordThreshold) : WordScroll :=
  ⟨true, 0, 0, 0, threshold⟩

def maxOffset (w : WordScroll) : UInt64 :=
  wordSub w.content w.viewport

def distance (w : WordScroll) : UInt64 :=
  wordSub w.maxOffset w.offset

def thresholdUnits (w : WordScroll) : UInt64 :=
  match w.threshold with
  | .units n => n
  | .share f => max (.ofNat (f.ceilShare w.viewport.toNat)) 1

def settle (w : WordScroll) : WordScroll :=
  if w.pinned then { w with offset := w.maxOffset }
  else { w with offset := min w.offset w.maxOffset }

def scrollTo (w : WordScroll) (offset : UInt64) : WordScroll :=
  let w := { w with offset := min offset w.maxOffset }
  { w with pinned := decide (w.distance < w.thresholdUnits) }

def operate (w : WordScroll) : WordOperation → WordScroll
  | .setViewport height => { w with viewport := height }.settle
  | .setContent length => { w with content := length }.settle
  | .scrollTo offset => w.scrollTo offset
  | .up n => w.scrollTo (wordSub w.offset n)
  | .down n => w.scrollTo (wordAdd w.offset n)
  | .pageUp => w.scrollTo (wordSub w.offset (max w.viewport 1))
  | .pageDown => w.scrollTo (wordAdd w.offset (max w.viewport 1))
  | .toTop => w.scrollTo 0
  | .toLatest => { w with pinned := true, offset := w.maxOffset }
  | .anchorAt offset => { w with offset := min offset w.maxOffset }

def after (w : WordScroll) (ops : List WordOperation) : WordScroll :=
  ops.foldl operate w

def number (w : WordScroll) : Scroll :=
  ⟨w.pinned, w.offset.toNat, w.content.toNat, w.viewport.toNat, w.threshold.number⟩

@[simp] theorem toNat_maxOffset (w : WordScroll) : w.maxOffset.toNat = w.number.maxOffset :=
  toNat_wordSub _ _

@[simp] theorem toNat_distance (w : WordScroll) : w.distance.toNat = w.number.distance := by
  rw [distance, toNat_wordSub, toNat_maxOffset]
  rfl

/-- The threshold is the same in words: a share is cut off at the largest length in both. -/
@[simp] theorem toNat_thresholdUnits (w : WordScroll) :
    w.thresholdUnits.toNat = w.number.thresholdUnits := by
  unfold thresholdUnits Scroll.thresholdUnits number
  cases w.threshold with
  | units n => rfl
  | share f =>
    have hfits : f.ceilShare w.viewport.toNat < 2 ^ 64 :=
      Nat.lt_of_le_of_lt (f.ceilShare_le _) (by decide)
    simp only [WordThreshold.number, toNat_wordMax, UInt64.toNat_ofNat_of_lt' hfits]
    rfl

/-- Settling in words is settling in numbers. -/
theorem number_settle (w : WordScroll) : w.settle.number = w.number.settle.1 := by
  unfold settle Scroll.settle
  have hpinned : w.number.pinned = w.pinned := rfl
  rw [hpinned]
  cases w.pinned with
  | true => simp [number, Scroll.maxOffset, maxOffset]
  | false => simp [number, Scroll.maxOffset, maxOffset]

/-- Of an offset that is scrolled to only what the content leaves of it counts. -/
theorem number_scrollTo {w : WordScroll} {offset : UInt64} {n : Nat}
    (h : min offset.toNat w.number.maxOffset = min n w.number.maxOffset) :
    (w.scrollTo offset).number = w.number.scrollTo n := by
  let moved : WordScroll := { w with offset := min offset w.maxOffset }
  have hmoved : moved.number = { w.number with offset := min n w.number.maxOffset } := by
    rw [← h]
    simp [moved, number, Scroll.maxOffset, maxOffset]
  have hpinned : (moved.distance < moved.thresholdUnits) =
      (moved.number.distance < moved.number.thresholdUnits) := by
    rw [UInt64.lt_iff_toNat_lt, toNat_distance, toNat_thresholdUnits]
  calc (w.scrollTo offset).number
      = { moved.number with pinned := decide (moved.distance < moved.thresholdUnits) } := rfl
    _ = { moved.number with
          pinned := decide (moved.number.distance < moved.number.thresholdUnits) } := by
        simp only [hpinned]
    _ = w.number.scrollTo n := by rw [hmoved]; rfl

/-- Scrolling down in words stops at the largest word, where the numbers stop at the bottom already.
-/
theorem number_down (w : WordScroll) (n : UInt64) :
    (w.scrollTo (wordAdd w.offset n)).number = w.number.down n.toNat := by
  apply number_scrollTo
  -- the sum is cut to the largest word, which no length of content passes
  have hfits : w.number.maxOffset ≤ greatestLength := by
    rw [← toNat_maxOffset]
    exact Nat.le_of_lt_succ w.maxOffset.toNat_lt
  have hoffset : w.number.offset = w.offset.toNat := rfl
  rw [toNat_wordAdd, hoffset]
  omega

/-- One operation in words is that operation in numbers. -/
theorem number_operate (w : WordScroll) (op : WordOperation) :
    (w.operate op).number = w.number.operate op.number := by
  have hpage : (max w.viewport 1).toNat = max w.number.viewport 1 := toNat_wordMax _ _
  cases op with
  | setViewport height => exact number_settle _
  | setContent length => exact number_settle _
  | scrollTo offset => exact number_scrollTo rfl
  | up n => exact number_scrollTo (by rw [toNat_wordSub]; rfl)
  | down n => exact w.number_down n
  | pageUp => exact number_scrollTo (by rw [toNat_wordSub, hpage]; rfl)
  | pageDown => exact (w.number_down _).trans (by rw [hpage]; rfl)
  | toTop => exact number_scrollTo rfl
  | toLatest => simp [operate, number, WordOperation.number, Scroll.operate, Scroll.follow,
      Scroll.toLatest, maxOffset, Scroll.maxOffset]
  | anchorAt offset => simp [operate, number, WordOperation.number, Scroll.operate,
      Scroll.anchorAt, maxOffset, Scroll.maxOffset]

/-- The same of a run of operations. -/
theorem number_after (w : WordScroll) (ops : List WordOperation) :
    (w.after ops).number = w.number.after (ops.map WordOperation.number) := by
  induction ops generalizing w with
  | nil => rfl
  | cons op rest ih =>
    exact (ih (w.operate op)).trans (congrArg (Scroll.after · _) (w.number_operate op))

end WordScroll

end LogTail

import LogTail.Proofs.Screen.Buffer

/-!
Rectangles in the middle of another one. Columns and rows are treated alike: of a length there is room for
what it leaves beside a margin, and what remains is put half before and half behind. Carried out on words of
16 bits this gives what it gives on natural numbers, since no sum passes the edge of the outer rectangle.
-/
namespace LogTail.Screen

structure Extent where
  start : ℕ
  length : ℕ

namespace Extent

def stop (e : Extent) : ℕ :=
  e.start + e.length

def middle (e : Extent) (margin wanted : ℕ) : Extent :=
  let length := min wanted (e.length - 2 * margin)
  ⟨e.start + (e.length - length) / 2, length⟩

/-- Whether an extent lies in the middle of another one: inside, with the margin on both sides where there
is room for one, and to within one cell as far from the one end as from the other. -/
structure CenteredIn (e outer : Extent) (margin : ℕ) : Prop where
  start_le : outer.start ≤ e.start
  le_stop : e.stop ≤ outer.stop
  margin_before : 2 * margin ≤ outer.length → outer.start + margin ≤ e.start
  margin_behind : 2 * margin ≤ outer.length → e.stop + margin ≤ outer.stop
  before_le_behind : e.start - outer.start ≤ outer.stop - e.stop
  behind_le_before : outer.stop - e.stop ≤ e.start - outer.start + 1

/-- What is taken of the middle of an extent lies in its middle, with its margin where there is
room. -/
theorem middle_centeredIn (e : Extent) (margin wanted : ℕ) :
    (e.middle margin wanted).CenteredIn e margin := by
  have hlength : (e.middle margin wanted).length ≤ e.length - 2 * margin := Nat.min_le_right _ _
  have hstart : (e.middle margin wanted).start =
      e.start + (e.length - (e.middle margin wanted).length) / 2 := rfl
  have hstop : (e.middle margin wanted).stop =
      (e.middle margin wanted).start + (e.middle margin wanted).length := rfl
  have houter : e.stop = e.start + e.length := rfl
  constructor <;> omega

theorem middle_length_le (e : Extent) (margin wanted : ℕ) :
    (e.middle margin wanted).length ≤ wanted :=
  Nat.min_le_left _ _

theorem middle_length_of_room {e : Extent} {margin wanted : ℕ} (h : wanted + 2 * margin ≤ e.length) :
    (e.middle margin wanted).length = wanted :=
  Nat.min_eq_left (Nat.le_sub_of_add_le h)

end Extent

namespace Area

def columns (a : Area) : Extent :=
  ⟨a.x, a.width⟩

def rows (a : Area) : Extent :=
  ⟨a.y, a.height⟩

/-- Between edges that are coordinates nothing is cut off. -/
theorem centered_extents {a : Area} (hright : a.right ≤ greatestCoordinate)
    (hbottom : a.bottom ≤ greatestCoordinate) (width height : ℕ) :
    (a.centered width height).columns = a.columns.middle 2 width ∧
      (a.centered width height).rows = a.rows.middle 1 height := by
  have hcolumns := (a.columns.middle_centeredIn 2 width).le_stop
  have hrows := (a.rows.middle_centeredIn 1 height).le_stop
  have hwidth : (a.columns.middle 2 width).length ≤
      greatestCoordinate - (a.columns.middle 2 width).start :=
    Nat.le_sub_of_add_le' (Nat.le_trans hcolumns hright)
  have hheight : (a.rows.middle 1 height).length ≤
      greatestCoordinate - (a.rows.middle 1 height).start :=
    Nat.le_sub_of_add_le' (Nat.le_trans hrows hbottom)
  exact ⟨congrArg (Extent.mk _) (Nat.min_eq_left hwidth),
    congrArg (Extent.mk _) (Nat.min_eq_left hheight)⟩

end Area

structure WordArea where
  x : UInt16
  y : UInt16
  width : UInt16
  height : UInt16

namespace WordArea

def number (a : WordArea) : Area :=
  ⟨a.x.toNat, a.y.toNat, a.width.toNat, a.height.toNat⟩

def left (length taken : UInt16) : UInt16 :=
  if taken ≤ length then length - taken else 0

def middle (start length inner : UInt16) : UInt16 :=
  start + left length inner / 2

def clipped (x y width height : UInt16) : WordArea :=
  ⟨x, y, min width (65535 - x), min height (65535 - y)⟩

def centered (a : WordArea) (width height : UInt16) : WordArea :=
  let width := min width (left a.width 4)
  let height := min height (left a.height 2)
  clipped (middle a.x a.width width) (middle a.y a.height height) width height

/-- The pairs of words that are added on the way, those included that the right and the bottom edge
come from. -/
def summands (a : WordArea) (width height : UInt16) : List (UInt16 × UInt16) :=
  let width := min width (left a.width 4)
  let height := min height (left a.height 2)
  [(a.x, left a.width width / 2), (a.y, left a.height height / 2),
    (middle a.x a.width width, width), (middle a.y a.height height, height)]

@[simp] theorem toNat_left (length taken : UInt16) :
    (left length taken).toNat = length.toNat - taken.toNat := by
  unfold left
  split
  case isTrue h => exact UInt16.toNat_sub_of_le _ _ h
  case isFalse h =>
    rw [UInt16.le_iff_toNat_le] at h
    exact (Nat.sub_eq_zero_of_le (Nat.le_of_not_le h)).symm

@[simp] theorem toNat_shorter (a b : UInt16) : (min a b).toNat = min a.toNat b.toNat := by
  change (if a ≤ b then a else b).toNat = _
  split
  case isTrue h => exact (Nat.min_eq_left (UInt16.le_iff_toNat_le.mp h)).symm
  case isFalse h =>
    rw [UInt16.le_iff_toNat_le] at h
    exact (Nat.min_eq_right (Nat.le_of_not_le h)).symm

@[simp] theorem toNat_half (n : UInt16) : (n / 2).toNat = n.toNat / 2 :=
  UInt16.toNat_div n 2

/-- The place in the middle is computed in words as in numbers, as long as the end can be addressed.
-/
theorem toNat_middle {start length : UInt16}
    (h : start.toNat + length.toNat ≤ greatestCoordinate) (inner : UInt16) :
    (middle start length inner).toNat = start.toNat + (length.toNat - inner.toNat) / 2 := by
  rw [middle, UInt16.toNat_add, toNat_half, toNat_left]
  unfold greatestCoordinate at h
  omega

theorem toNat_beyond (n : UInt16) : (65535 - n).toNat = greatestCoordinate - n.toNat :=
  UInt16.toNat_sub_of_le 65535 n (UInt16.le_iff_toNat_le.mpr (Nat.le_of_lt_succ n.toNat_lt))

variable {a : WordArea}

/-- Where the edges are coordinates, words give the rectangle that numbers give. -/
theorem number_centered (hright : a.number.right ≤ greatestCoordinate)
    (hbottom : a.number.bottom ≤ greatestCoordinate) (width height : UInt16) :
    (a.centered width height).number = a.number.centered width.toNat height.toNat := by
  have hx : ∀ inner, (middle a.x a.width inner).toNat = a.x.toNat + (a.width.toNat - inner.toNat) / 2 :=
    toNat_middle hright
  have hy : ∀ inner, (middle a.y a.height inner).toNat = a.y.toNat + (a.height.toNat - inner.toNat) / 2 :=
    toNat_middle hbottom
  simp only [centered, clipped, number, toNat_shorter, toNat_beyond, hx, hy, toNat_left]
  rfl

/-- No sum on the way overflows, since each is bounded by an edge of the screen. -/
theorem summands_fit (hright : a.number.right ≤ greatestCoordinate)
    (hbottom : a.number.bottom ≤ greatestCoordinate) (width height : UInt16) :
    ∀ s ∈ a.summands width height, s.1.toNat + s.2.toNat ≤ greatestCoordinate := by
  have hx : ∀ inner, (middle a.x a.width inner).toNat = a.x.toNat + (a.width.toNat - inner.toNat) / 2 :=
    toNat_middle hright
  have hy : ∀ inner, (middle a.y a.height inner).toNat = a.y.toNat + (a.height.toNat - inner.toNat) / 2 :=
    toNat_middle hbottom
  have hright' : a.x.toNat + a.width.toNat ≤ greatestCoordinate := hright
  have hbottom' : a.y.toNat + a.height.toNat ≤ greatestCoordinate := hbottom
  simp only [summands, List.forall_mem_cons, List.not_mem_nil, false_implies, implies_true, and_true,
    hx, hy, toNat_half, toNat_left, toNat_shorter]
  omega

/-- Where the edges of an area are coordinates, a popup of any size lies inside it: no larger than it was
to be and of that size where there is room, with two columns and one row free on each side where the area
has as many, and in the middle to within one cell. It can be computed in words of 16 bits, of which none
that are added pass the largest coordinate. -/
theorem popup_fits (hright : a.number.right ≤ greatestCoordinate)
    (hbottom : a.number.bottom ≤ greatestCoordinate) (width height : UInt16) :
    let popup := a.number.centered width.toNat height.toNat
    ((a.centered width height).number = popup ∧
      ∀ s ∈ a.summands width height, s.1.toNat + s.2.toNat ≤ greatestCoordinate) ∧
    popup.Within a.number ∧
    (popup.columns.CenteredIn a.number.columns 2 ∧ popup.rows.CenteredIn a.number.rows 1) ∧
    (popup.width ≤ width.toNat ∧ popup.height ≤ height.toNat) ∧
    (width.toNat + 4 ≤ a.number.width → popup.width = width.toNat) ∧
    (height.toNat + 2 ≤ a.number.height → popup.height = height.toNat) := by
  intro popup
  obtain ⟨hcolumns, hrows⟩ := Area.centered_extents hright hbottom width.toNat height.toNat
  have hmiddle : popup.columns.CenteredIn a.number.columns 2 :=
    hcolumns ▸ Extent.middle_centeredIn _ _ _
  have hmiddle' : popup.rows.CenteredIn a.number.rows 1 :=
    hrows ▸ Extent.middle_centeredIn _ _ _
  have hwidth : popup.width = (a.number.columns.middle 2 width.toNat).length :=
    congrArg Extent.length hcolumns
  have hheight : popup.height = (a.number.rows.middle 1 height.toNat).length :=
    congrArg Extent.length hrows
  refine ⟨⟨number_centered hright hbottom width height, summands_fit hright hbottom width height⟩,
    ⟨hmiddle.start_le, hmiddle.le_stop, hmiddle'.start_le, hmiddle'.le_stop⟩, ⟨hmiddle, hmiddle'⟩,
    ⟨?_, ?_⟩, fun hroom => ?_, fun hroom => ?_⟩
  · exact hwidth ▸ Extent.middle_length_le _ _ _
  · exact hheight ▸ Extent.middle_length_le _ _ _
  · exact hwidth.trans (Extent.middle_length_of_room hroom)
  · exact hheight.trans (Extent.middle_length_of_room hroom)

/-- A popup for which there are not enough rows, in an area that ends at the largest coordinates. -/
theorem popup_fits_last_rows :
    let a : WordArea := ⟨65000, 65515, 535, 20⟩
    a.number.right ≤ greatestCoordinate ∧ a.number.bottom ≤ greatestCoordinate ∧
      a.number.centered 50 28 = ⟨65242, 65516, 50, 18⟩ ∧
      (a.centered 50 28).number = a.number.centered 50 28 ∧
      (a.number.centered 50 28).Within a.number := by
  intro a
  have hright : a.number.right ≤ greatestCoordinate := by decide
  have hbottom : a.number.bottom ≤ greatestCoordinate := by decide
  obtain ⟨⟨hwords, -⟩, hinside, -⟩ := popup_fits hright hbottom 50 28
  exact ⟨hright, hbottom, by decide, hwords, hinside⟩

end WordArea

end LogTail.Screen

import LogTail.Display.StatusBar
import LogTail.Proofs.Screen.Placed

/-!
What the bar at the bottom shows. The line on the right is drawn if all of it fits with a column on either
side, and not at all otherwise; the keys are drawn up to one column before it, and where it does not fit
they have no room either.
-/
namespace LogTail.Display.StatusBar

open LogTail.Screen

variable {bar : StatusBar} {a : Area}

theorem word_of_lt {n : ℕ} (h : n < 65536) : word n = n :=
  Nat.mod_eq_of_lt h

theorem rightWidth_lt (bar : StatusBar) : bar.rightWidth < 65536 :=
  Nat.mod_lt _ (by decide)

theorem rightColumn_le (bar : StatusBar) (a : Area) : bar.rightColumn a ≤ a.right :=
  Nat.add_le_add_left (Nat.sub_le _ _) _

def hintPlaces (bar : StatusBar) (a : Area) (limit : ℕ) : List Placed :=
  placeLine limit (a.x + 1) (bar.rightColumn a - (a.x + 2)) bar.hintLine

def rightPlaces (bar : StatusBar) (a : Area) (limit : ℕ) : List Placed :=
  if 0 < bar.rightWidth ∧ a.x < bar.rightColumn a then
    placeLine limit (bar.rightColumn a) bar.rightWidth bar.rightLine
  else []

/-- Drawing the bar comes to colouring it and then writing glyphs at known places. -/
theorem draw_eq (bar : StatusBar) (b : Buffer) (a : Area) :
    bar.draw b a = (b.setStyle a Theme.bar).stampAll a.y
      (bar.hintPlaces a b.area.right ++ bar.rightPlaces a b.area.right) := by
  rw [Buffer.stampAll_append, hintPlaces, rightPlaces]
  simp only [draw, Buffer.writeLine_eq, Buffer.stampAll_area, Buffer.setStyle_area]
  split <;> rfl

/-- The keys end a column before the line on the right begins. -/
theorem hintPlaces_linedUp (bar : StatusBar) (a : Area) (limit : ℕ) :
    Placed.LinedUp (a.x + 1) (bar.rightColumn a - 1) (bar.hintPlaces a limit) := by
  obtain ⟨hlined, -, hstop⟩ := placeLine_linedUp limit (a.x + 1) (bar.rightColumn a - (a.x + 2))
    bar.hintLine
  by_cases hroom : bar.rightColumn a ≤ a.x + 2
  · have hnil : bar.hintPlaces a limit = [] := by
      rw [hintPlaces, Nat.sub_eq_zero_of_le hroom]
      cases bar.hintLine <;> rfl
    rw [hnil]
    exact .nil _ _
  · exact hlined.mono (Nat.le_refl _) (by omega)

/-- The glyphs of the line on the right stand one after another within its columns. -/
theorem rightPlaces_linedUp (bar : StatusBar) {a : Area} {limit : ℕ} (h : a.right ≤ limit) :
    Placed.LinedUp (bar.rightColumn a) (min (bar.rightColumn a + bar.rightWidth) limit)
      (bar.rightPlaces a limit) := by
  obtain ⟨hlined, -, hstop⟩ := placeLine_linedUp limit (bar.rightColumn a) bar.rightWidth bar.rightLine
  have hcolumn := bar.rightColumn_le a
  unfold rightPlaces
  split
  · exact hlined.mono (Nat.le_refl _) (by omega)
  · exact .nil _ _

/-- Some of the line on the right stands in the bar if and only if its columns, as far as they are counted,
leave two, and one of its spans begins with a glyph that has no more of them. -/
theorem rightPlaces_in_bar_iff {limit : ℕ} (hlimit : a.right ≤ limit)
    (hcoordinate : a.right ≤ greatestCoordinate) :
    (∃ q ∈ bar.rightPlaces a limit, a.x ≤ q.column ∧ q.stop ≤ a.right) ↔
      0 < bar.rightWidth ∧ bar.rightWidth + 1 < a.width ∧
        ∃ span ∈ bar.rightLine, ∃ g, span.visible.head? = some g ∧ g.width ≤ bar.rightWidth := by
  have hlined := bar.rightPlaces_linedUp hlimit
  have hcount := bar.rightWidth_lt
  have hcolumn : bar.rightColumn a = a.x + (a.width - word (bar.rightWidth + 1)) := rfl
  unfold Area.right greatestCoordinate at *
  constructor
  · rintro ⟨q, hq, -, hstop⟩
    have hplaced : 0 < bar.rightWidth ∧ a.x < bar.rightColumn a ∧
        q ∈ placeLine limit (bar.rightColumn a) bar.rightWidth bar.rightLine := by
      unfold rightPlaces at hq
      split at hq
      · next h => exact ⟨h.1, h.2, hq⟩
      · exact absurd hq List.not_mem_nil
    obtain ⟨hpos, hroom, hmem⟩ := hplaced
    obtain ⟨span, hspan, g, hg, hle⟩ := (placeLine_ne_nil_iff _ _ _ _).mp (List.ne_nil_of_mem hmem)
    refine ⟨hpos, ?_, span, hspan, g, hg, by omega⟩
    -- a width of all ones is counted as none, and the line begins behind the bar
    by_cases hwrap : bar.rightWidth + 1 < 65536
    · rw [word_of_lt hwrap] at hcolumn
      omega
    · have hbehind : word (bar.rightWidth + 1) = 0 := by
        rw [show bar.rightWidth + 1 = 65536 by omega]
        rfl
      have hinside := hlined.inside q hq
      have hwide := hlined.wide q hq
      unfold Placed.stop at hstop
      omega
  · rintro ⟨hpos, hfits, span, hspan, g, hg, hle⟩
    rw [word_of_lt (by omega)] at hcolumn
    have hplaces : bar.rightPlaces a limit =
        placeLine limit (bar.rightColumn a) bar.rightWidth bar.rightLine :=
      if_pos ⟨hpos, by omega⟩
    have hsome : bar.rightPlaces a limit ≠ [] := by
      rw [hplaces, placeLine_ne_nil_iff]
      exact ⟨span, hspan, g, hg, by omega⟩
    obtain ⟨q, hq⟩ := List.exists_mem_of_ne_nil _ hsome
    have hinside := hlined.inside q hq
    exact ⟨q, hq, by omega, by omega⟩

/-- The bar shows the keys it has room for and, after a free column, the line on the right; the two never
overlap. But some of the line on the right stands in the bar only if all of its columns, as far as they are
counted, and two more do. -/
theorem right_shown_iff (bar : StatusBar) {b : Buffer} {a : Area} (hb : b.Full)
    (ha : a.Within b.area) (hheight : 1 ≤ a.height) (hcoordinate : a.right ≤ greatestCoordinate) :
    ∃ hints right : List Placed,
      bar.draw b a = (b.setStyle a Theme.bar).stampAll a.y (hints ++ right) ∧
      (hints.map (·.glyph)).Sublist bar.hintLine.visible ∧
      (right.map (·.glyph)).Sublist bar.rightLine.visible ∧
      (∀ p ∈ hints ++ right, (bar.draw b a).Shows a.y p) ∧
      (∀ p ∈ hints, a.x < p.column ∧ p.stop < a.right) ∧
      (∀ p ∈ hints, ∀ q ∈ right, p.stop < q.column) ∧
      ((∃ q ∈ right, a.x ≤ q.column ∧ q.stop ≤ a.right) ↔
        0 < bar.rightWidth ∧ bar.rightWidth + 1 < a.width ∧
          ∃ span ∈ bar.rightLine, ∃ g, span.visible.head? = some g ∧ g.width ≤ bar.rightWidth) := by
  have hhints := bar.hintPlaces_linedUp a b.area.right
  have hright := bar.rightPlaces_linedUp ha.right
  have hcolumn := bar.rightColumn_le a
  refine ⟨bar.hintPlaces a b.area.right, bar.rightPlaces a b.area.right, draw_eq bar b a, ?_, ?_, ?_, ?_,
    ?_, rightPlaces_in_bar_iff ha.right hcoordinate⟩
  · exact placeLine_glyphs _ _ _ _
  · unfold rightPlaces
    split
    · exact placeLine_glyphs _ _ _ _
    · exact List.nil_sublist _
  -- both lines together stand one after another, so no glyph is written over
  · have hlined : Placed.LinedUp a.x (min (bar.rightColumn a + bar.rightWidth) b.area.right)
        (bar.hintPlaces a b.area.right ++ bar.rightPlaces a b.area.right) :=
      (hhints.mono (Nat.le_succ a.x) (Nat.sub_le _ 1)).append hright (Nat.le_add_right _ _)
        (Nat.le_min.mpr ⟨Nat.le_add_right _ _, Nat.le_trans hcolumn ha.right⟩)
    have hrow : a.y < b.area.bottom := by
      have hbottom := ha.bottom
      unfold Area.bottom at *
      omega
    rw [draw_eq]
    refine Buffer.stampAll_shows (hb.setStyle a _) hlined ?_ ?_ ?_ ?_ <;> rw [Buffer.setStyle_area]
    · exact ha.left
    · exact Nat.min_le_right _ _
    · exact ha.top
    · exact hrow
  · intro p hp
    have hinside := hhints.inside p hp
    have hwide := hhints.wide p hp
    unfold Placed.stop at *
    omega
  · intro p hp q hq
    have hinside := hhints.inside p hp
    have hinside' := hright.inside q hq
    have hwide := hhints.wide p hp
    unfold Placed.stop at *
    omega

/-- A short text on the right is seen beside a key. -/
theorem right_shown_iff_short :
    let bar : StatusBar := ⟨[("q", "Quit")], [styled Theme.bar "ok"]⟩
    ∃ q, (bar.draw (.blank ⟨0, 0, 12, 1⟩) ⟨0, 0, 12, 1⟩).Shows 0 q ∧
      q.glyph ∈ bar.rightLine.visible := by
  intro bar
  obtain ⟨hints, right, -, -, hglyphs, hshows, -, -, hiff⟩ :=
    right_shown_iff bar (Buffer.blank_full ⟨0, 0, 12, 1⟩) (a := ⟨0, 0, 12, 1⟩)
      ⟨by decide, by decide, by decide, by decide⟩ (by decide) (by decide)
  obtain ⟨q, hq, -⟩ := hiff.mpr ⟨by decide +kernel, by decide +kernel, styled Theme.bar "ok",
    by decide +kernel, ⟨['o'], Theme.bar⟩, by decide +kernel, by decide +kernel⟩
  exact ⟨q, hshows q (List.mem_append_right hints hq),
    hglyphs.subset (List.mem_map_of_mem hq)⟩

/-- Two columns on the right are not seen in a bar of three, and neither is the key. -/
theorem right_not_shown :
    let bar : StatusBar := ⟨[("q", "Quit")], [styled Theme.bar "ab"]⟩
    bar.rightLine.width = 2 ∧
      ((bar.draw (.blank ⟨0, 0, 3, 1⟩) ⟨0, 0, 3, 1⟩).row 0).map (·.symbol) = [[' '], [' '], [' ']] := by
  decide +kernel

end LogTail.Display.StatusBar

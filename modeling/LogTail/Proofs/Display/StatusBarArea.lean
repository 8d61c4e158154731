import LogTail.Display.Bands
import LogTail.Proofs.Display.StatusBar
import LogTail.Proofs.Text.Width

/-!
Where the bar at the bottom is drawn. It is drawn into the first row of its area and nowhere else, whatever
it shows; but an area without rows has none, and then what has room is written all the same, into the row
below or where there are no cells at all.
-/
namespace LogTail

namespace Screen.Buffer

/-- Whether a drawing left everything outside an area as it was. -/
structure KeptOutside (a : Area) (b d : Buffer) : Prop where
  area : d.area = b.area
  overrun : d.overrun = b.overrun
  cell : ∀ u v, a.contains u v = false → d.cell u v = b.cell u v

variable {b : Buffer} {a : Area}

theorem KeptOutside.trans {c d : Buffer} (h : b.KeptOutside a c) (h' : c.KeptOutside a d) :
    b.KeptOutside a d :=
  ⟨h'.area.trans h.area, h'.overrun.trans h.overrun,
    fun u v hplace => (h'.cell u v hplace).trans (h.cell u v hplace)⟩

theorem setStyle_keptOutside (b : Buffer) (a : Area) (s : Style) :
    KeptOutside a b (b.setStyle a s) :=
  ⟨setStyle_area b a s, overrun_setStyle b a s, fun _ _ h => cell_setStyle_of_outside h s⟩

/-- Glyphs that are lined up in a row of an area keep to it. -/
theorem stampAll_keptOutside {y : ℕ} {ps : List Placed} (hps : Placed.LinedUp a.x a.right ps)
    (ha : a.Within b.area) (hy : a.y ≤ y) (hy' : y < a.bottom) :
    KeptOutside a b (b.stampAll y ps) where
  area := stampAll_area b y ps
  overrun := overrun_stampAll_of_inside hps ha.left ha.right (Nat.le_trans ha.top hy)
    (Nat.lt_of_lt_of_le hy' ha.bottom)
  cell := by
    intro u v hplace
    refine cell_stampAll_of_outside hps.wide fun p hp => ?_
    have hinside := hps.inside p hp
    have houtside := mt Area.contains_iff.mpr (Bool.eq_false_iff.mp hplace)
    omega

end Screen.Buffer

namespace Display.StatusBar

open LogTail.Screen

variable {bar : StatusBar} {a : Area}

/-- The sums of which the positions in the bar are made. -/
def sums (bar : StatusBar) (a : Area) : List ℕ :=
  [bar.rightWidth + 1, a.x + (a.width - (bar.rightWidth + 1)), a.x + 2, a.x + 1]

def HasRoom (bar : StatusBar) (a : Area) : Prop :=
  (∃ span ∈ bar.hintLine, ∃ g,
      span.visible.head? = some g ∧ g.width ≤ bar.rightColumn a - (a.x + 2)) ∨
    (0 < bar.rightWidth ∧ a.x < bar.rightColumn a) ∧ ∃ span ∈ bar.rightLine, ∃ g,
      span.visible.head? = some g ∧ g.width ≤ bar.rightWidth

def places (bar : StatusBar) (a : Area) (limit : ℕ) : List Placed :=
  bar.hintPlaces a limit ++ bar.rightPlaces a limit

/-- In an area on the screen only two of the sums can be too large: the one that adds a column to
the line on the right, and the place of the first hint. -/
theorem sums_fit_iff (hright : a.right ≤ greatestCoordinate) :
    (∀ n ∈ bar.sums a, n ≤ greatestCoordinate) ↔
      bar.rightWidth < greatestCoordinate ∧ a.x + 2 ≤ greatestCoordinate := by
  simp only [sums, List.forall_mem_cons, List.not_mem_nil, false_implies, implies_true, and_true]
  unfold Area.right at hright
  omega

/-- A line on the right can have any width. -/
theorem rightWidth_replicate (hints : List (String × String)) (s : Style) (n : ℕ) :
    rightWidth ⟨hints, [⟨List.replicate n 'x', s⟩]⟩ = word n := by
  have hwidth : Text.width (List.replicate n 'x') = n := by
    induction n with
    | zero => rfl
    | succ n ih =>
      rw [List.replicate_succ', Text.width_concat (by decide +kernel), ih]
      rfl
  exact congrArg word ((Nat.add_zero _).trans hwidth)

theorem rightColumn_of_lt (h : bar.rightWidth < greatestCoordinate) (a : Area) :
    bar.rightColumn a = a.x + (a.width - (bar.rightWidth + 1)) := by
  rw [rightColumn, word_of_lt (Nat.succ_lt_succ h)]

/-- Everything is written between the edges of the bar. -/
theorem places_linedUp (hwidth : bar.rightWidth < greatestCoordinate) {limit : ℕ}
    (hlimit : a.right ≤ limit) : Placed.LinedUp a.x a.right (bar.places a limit) := by
  have hcolumn := rightColumn_of_lt hwidth a
  have hhints := bar.hintPlaces_linedUp a limit
  have hle := bar.rightColumn_le a
  have hright : Placed.LinedUp (bar.rightColumn a) a.right (bar.rightPlaces a limit) := by
    by_cases hroom : a.x < bar.rightColumn a
    · refine (bar.rightPlaces_linedUp hlimit).mono (Nat.le_refl _) ?_
      unfold Area.right
      omega
    · rw [rightPlaces, if_neg fun h => hroom h.2]
      exact .nil _ _
  exact (hhints.mono (Nat.le_succ a.x) (Nat.sub_le _ 1)).append hright (by omega) hle

/-- Something is written exactly where one of the lines has room for its first glyph. -/
theorem places_ne_nil_iff (hwidth : bar.rightWidth < greatestCoordinate) {limit : ℕ}
    (hlimit : a.right ≤ limit) : bar.places a limit ≠ [] ↔ bar.HasRoom a := by
  have hcolumn := rightColumn_of_lt hwidth a
  unfold Area.right at hlimit
  have hhints : min (bar.rightColumn a - (a.x + 2)) (limit - (a.x + 1)) =
      bar.rightColumn a - (a.x + 2) := by omega
  have hright : bar.rightPlaces a limit ≠ [] ↔
      (0 < bar.rightWidth ∧ a.x < bar.rightColumn a) ∧ ∃ span ∈ bar.rightLine, ∃ g,
        span.visible.head? = some g ∧ g.width ≤ bar.rightWidth := by
    unfold rightPlaces
    split
    case isTrue hroom =>
      have hfits : min bar.rightWidth (limit - bar.rightColumn a) = bar.rightWidth := by omega
      rw [placeLine_ne_nil_iff, hfits]
      exact (and_iff_right hroom).symm
    case isFalse hroom => exact iff_of_false (fun h => h rfl) fun h => hroom h.1
  rw [places, ne_eq, List.append_eq_nil_iff, not_and_or, HasRoom, ← hright, ← hhints,
    ← placeLine_ne_nil_iff]
  rfl

/-- What is written comes from the two lines, in their order. -/
theorem places_glyphs (bar : StatusBar) (a : Area) (limit : ℕ) :
    ((bar.places a limit).map (·.glyph)).Sublist (bar.hintLine.visible ++ bar.rightLine.visible) := by
  rw [places, List.map_append]
  refine (placeLine_glyphs _ _ _ _).append ?_
  unfold rightPlaces
  split
  · exact placeLine_glyphs _ _ _ _
  · exact List.nil_sublist _

theorem draw_eq_places (bar : StatusBar) (b : Buffer) (a : Area) :
    bar.draw b a = (b.setStyle a Theme.bar).stampAll a.y (bar.places a b.area.right) :=
  draw_eq bar b a

/-- In a bar that has a row everything stays in it. -/
theorem draw_keptOutside (hwidth : bar.rightWidth < greatestCoordinate) {b : Buffer}
    (ha : a.Within b.area) (hheight : 1 ≤ a.height) : b.KeptOutside a (bar.draw b a) := by
  have hbottom : a.y < a.bottom := Nat.lt_add_of_pos_right hheight
  rw [draw_eq_places]
  refine (b.setStyle_keptOutside a Theme.bar).trans ?_
  exact Buffer.stampAll_keptOutside (places_linedUp hwidth ha.right)
    (by rwa [Buffer.setStyle_area]) (Nat.le_refl _) hbottom

/-- In a bar without a row, nothing is drawn if nothing has room. -/
theorem draw_keptOutside_of_noRoom (hwidth : bar.rightWidth < greatestCoordinate) {b : Buffer}
    (ha : a.Within b.area) (hroom : ¬ bar.HasRoom a) : b.KeptOutside a (bar.draw b a) := by
  have hnone : bar.places a b.area.right = [] := by
    by_contra hsome
    exact hroom ((places_ne_nil_iff hwidth ha.right).mp hsome)
  rw [draw_eq_places, hnone]
  exact b.setStyle_keptOutside a Theme.bar

/-- What has room is written even if there is no row for it: into the row below the area, or where the
buffer has no cells. -/
theorem draw_without_rows (hwidth : bar.rightWidth < greatestCoordinate) (hroom : bar.HasRoom a)
    {b : Buffer} (hb : b.Full) (ha : a.Within b.area) :
    if a.y < b.area.bottom then
      ∃ p, p.glyph ∈ bar.hintLine.visible ++ bar.rightLine.visible ∧ (bar.draw b a).Shows a.y p
    else (bar.draw b a).overrun = true := by
  have hsome := (places_ne_nil_iff hwidth ha.right).mpr hroom
  rw [draw_eq_places]
  split
  case isTrue hrow =>
    obtain ⟨p, hp⟩ := List.exists_mem_of_ne_nil _ hsome
    refine ⟨p, (bar.places_glyphs a _).subset (List.mem_map_of_mem hp), ?_⟩
    refine Buffer.stampAll_shows (hb.setStyle a _) (places_linedUp hwidth ha.right) ?_ ?_ ?_ ?_ p hp <;>
      rw [Buffer.setStyle_area]
    · exact ha.left
    · exact ha.right
    · exact ha.top
    · exact hrow
  case isFalse hrow =>
    refine Buffer.overrun_stampAll_of_below hsome ?_
    rw [Buffer.setStyle_area]
    exact Nat.not_lt.mp hrow

/-- On the screen the bar has no row where the list of records takes the last one, and where the header
takes it. -/
theorem statusBar_height_eq_zero_iff (screen : Area) (filterBar : Bool) :
    (Bands.ofArea screen filterBar).statusBar.height = 0 ↔
      screen.height ≤ 1 ∨ screen.height = 2 ∧ filterBar = false := by
  have hzero (upper : ℕ) : Bands.statusRows screen.height upper = 0 ↔
      screen.height ≤ 1 ∨ upper = 1 ∧ screen.height = 2 := by
    unfold Bands.statusRows
    split
    case isTrue h => exact iff_of_true rfl h
    case isFalse h => exact iff_of_false (by decide) h
  cases filterBar with
  | false =>
    have hlone := hzero 1
    show screen.height - (screen.height - Bands.statusRows screen.height 1) = 0 ↔ _
    rw [and_iff_left rfl]
    omega
  | true =>
    have hboth := hzero 2
    show screen.height - (screen.height - Bands.statusRows screen.height 2) = 0 ↔ _
    rw [or_iff_left fun h => Bool.noConfusion h.2]
    omega

/-- The positions in the bar fit in 16 bits unless the line on the right has the greatest width or the bar
begins in one of the last two columns. Where they fit, nothing outside the area is changed, and no cell
written that is not there, if and only if the area has a row or nothing has room in it; and the screen
leaves the bar no row if it has one itself, or two without the filter bar. -/
theorem stays_in_area_iff (bar : StatusBar) {a : Area} (hright : a.right ≤ greatestCoordinate) :
    ((∀ n ∈ bar.sums a, n ≤ greatestCoordinate) ↔
        bar.rightWidth < greatestCoordinate ∧ a.x + 2 ≤ greatestCoordinate) ∧
      ((∀ n ∈ bar.sums a, n ≤ greatestCoordinate) →
        ((∀ b : Buffer, b.Full → a.Within b.area → b.KeptOutside a (bar.draw b a)) ↔
          1 ≤ a.height ∨ ¬ bar.HasRoom a)) ∧
      ∀ (screen : Area) (filterBar : Bool),
        (Bands.ofArea screen filterBar).statusBar.height = 0 ↔
          screen.height ≤ 1 ∨ screen.height = 2 ∧ filterBar = false := by
  refine ⟨sums_fit_iff hright, fun hfit => ⟨fun hkept => ?_, fun h b _ ha => ?_⟩,
    statusBar_height_eq_zero_iff⟩
  · by_contra hbad
    obtain ⟨hheight, hroom⟩ := not_or.mp hbad
    -- a buffer that is no more than the area has no cell for what is written
    have hself : a.Within (Buffer.blank a).area := ⟨Nat.le_refl _, Nat.le_refl _, Nat.le_refl _, Nat.le_refl _⟩
    have hdrawn := draw_without_rows ((sums_fit_iff hright).mp hfit).1 (not_not.mp hroom)
      (Buffer.blank_full a) hself
    have hrow : ¬ a.y < (Buffer.blank a).area.bottom := by
      show ¬ a.y < a.y + a.height
      omega
    rw [if_neg hrow, (hkept (.blank a) (Buffer.blank_full a) hself).overrun] at hdrawn
    exact Bool.noConfusion hdrawn
  · have hwidth := ((sums_fit_iff hright).mp hfit).1
    exact h.elim (draw_keptOutside hwidth ha) (draw_keptOutside_of_noRoom hwidth ha)

/-- A bar of one row in the middle of a buffer. -/
theorem stays_in_area_iff_one_row :
    let bar : StatusBar := ⟨[("q", "Quit")], [styled Theme.bar "ok"]⟩
    (∀ n ∈ bar.sums ⟨1, 1, 12, 1⟩, n ≤ greatestCoordinate) ∧
      (Buffer.blank ⟨0, 0, 14, 3⟩).KeptOutside ⟨1, 1, 12, 1⟩
        (bar.draw (.blank ⟨0, 0, 14, 3⟩) ⟨1, 1, 12, 1⟩) := by
  intro bar
  obtain ⟨hsums, hkept, -⟩ := stays_in_area_iff bar (show Area.right ⟨1, 1, 12, 1⟩ ≤ _ by decide)
  have hfit := hsums.mpr ⟨by decide +kernel, by decide⟩
  exact ⟨hfit, (hkept hfit).mpr (.inl (by decide)) (.blank ⟨0, 0, 14, 3⟩) (Buffer.blank_full _)
    ⟨by decide, by decide, by decide, by decide⟩⟩

/-- On a screen of one row the bar has no row, and what it draws is written where there are no cells; in a
higher buffer it is written into the row below its area. A line on the right of the greatest width is one
column too wide for the sum that places it. -/
theorem leaves_area :
    let bar : StatusBar := ⟨[("q", "Quit")], [styled .plain "ok"]⟩
    let wide : StatusBar := ⟨[], [⟨List.replicate 65535 'x', .plain⟩]⟩
    ((Bands.ofArea ⟨0, 0, 40, 1⟩ false).statusBar = ⟨0, 1, 40, 0⟩ ∧
        (bar.draw (.blank ⟨0, 0, 40, 1⟩) ⟨0, 1, 40, 0⟩).overrun = true ∧
        (bar.draw (.blank ⟨0, 0, 40, 0⟩) ⟨0, 0, 40, 0⟩).overrun = true ∧
        Area.contains ⟨0, 0, 40, 0⟩ 1 0 = false ∧
        ((bar.draw (.blank ⟨0, 0, 40, 1⟩) ⟨0, 0, 40, 0⟩).cell 1 0).symbol = ['['] ∧
        ((Buffer.blank ⟨0, 0, 40, 1⟩).cell 1 0).symbol = [' ']) ∧
      ¬ ∀ n ∈ wide.sums ⟨0, 0, 40, 1⟩, n ≤ greatestCoordinate := by
  refine ⟨by decide +kernel, fun hfit => ?_⟩
  have hsum := hfit _ List.mem_cons_self
  rw [rightWidth_replicate] at hsum
  exact absurd hsum (by decide)

end Display.StatusBar

end LogTail

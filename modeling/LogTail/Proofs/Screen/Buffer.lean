import Mathlib.Data.Nat.Notation
import LogTail.Screen.Buffer

/-!
The cells of a buffer after a change. A change of one cell leaves all others as they were, and so does a
change of several places for the cells that are not among them.
-/
namespace LogTail.Screen

theorem Area.contains_iff {a : Area} {x y : ℕ} :
    a.contains x y = true ↔ a.x ≤ x ∧ x < a.right ∧ a.y ≤ y ∧ y < a.bottom := by
  simp only [contains, Bool.and_eq_true, decide_eq_true_eq, and_assoc]

structure Area.Within (a c : Area) : Prop where
  left : c.x ≤ a.x
  right : a.right ≤ c.right
  top : c.y ≤ a.y
  bottom : a.bottom ≤ c.bottom

namespace Buffer

def Full (b : Buffer) : Prop :=
  b.cells.size = b.area.width * b.area.height

theorem blank_full (a : Area) : (blank a).Full :=
  Array.size_replicate

variable {b : Buffer} {x y u v : ℕ} {f : Cell → Cell}

@[simp] theorem update_area (b : Buffer) (x y : ℕ) (f : Cell → Cell) :
    (b.update x y f).area = b.area := by
  unfold update
  split <;> rfl

theorem Full.update (h : b.Full) (x y : ℕ) (f : Cell → Cell) : (b.update x y f).Full := by
  unfold Full Buffer.update at *
  split
  · rw [Array.size_modify, h]
  · exact h

/-- A place inside the area has a cell. -/
theorem index_lt (hb : b.Full) (h : b.area.contains x y = true) : b.index x y < b.cells.size := by
  obtain ⟨hx, hright, hy, hbottom⟩ := Area.contains_iff.mp h
  unfold Area.right at hright
  unfold Area.bottom at hbottom
  rw [hb, index]
  calc (y - b.area.y) * b.area.width + (x - b.area.x)
      < (y - b.area.y) * b.area.width + b.area.width := by omega
    _ = (y - b.area.y + 1) * b.area.width := (Nat.succ_mul _ _).symm
    _ ≤ b.area.height * b.area.width := Nat.mul_le_mul_right _ (by omega)
    _ = b.area.width * b.area.height := Nat.mul_comm _ _

/-- Two places of a buffer have different cells. -/
theorem index_inj (h : b.area.contains x y = true) (h' : b.area.contains u v = true)
    (hindex : b.index x y = b.index u v) : x = u ∧ y = v := by
  obtain ⟨hx, hright, hy, -⟩ := Area.contains_iff.mp h
  obtain ⟨hu, hright', hv, -⟩ := Area.contains_iff.mp h'
  unfold Area.right at hright hright'
  have hlt : x - b.area.x < b.area.width := by omega
  have hlt' : u - b.area.x < b.area.width := by omega
  have hpos : 0 < b.area.width := by omega
  unfold index at hindex
  -- column and row are the remainder and the quotient by the width
  rw [Nat.mul_comm, Nat.mul_comm (v - _)] at hindex
  have hcolumn := congrArg (· % b.area.width) hindex
  have hrow := congrArg (· / b.area.width) hindex
  simp only [Nat.mul_add_mod, Nat.mod_eq_of_lt hlt, Nat.mod_eq_of_lt hlt'] at hcolumn
  simp only [Nat.mul_add_div hpos, Nat.div_eq_of_lt hlt, Nat.div_eq_of_lt hlt'] at hrow
  omega

theorem cell_update_self (hb : b.Full) (h : b.area.contains x y = true) :
    (b.update x y f).cell x y = f (b.cell x y) := by
  have hlt := index_lt hb h
  have hupdate : b.update x y f = { b with cells := b.cells.modify (b.index x y) f } := if_pos h
  have hindex : (b.update x y f).index x y = b.index x y := by rw [hupdate]; rfl
  rw [cell, cell, update_area, if_pos h, if_pos h, hindex, hupdate]
  simp [hlt, Array.getElem_modify_self]

/-- Changing a cell changes no other, since no two places of the area have one index. -/
theorem cell_update_of_ne (h : ¬ (u = x ∧ v = y)) :
    (b.update x y f).cell u v = b.cell u v := by
  by_cases hplace : b.area.contains x y = true
  · have hupdate : b.update x y f = { b with cells := b.cells.modify (b.index x y) f } := if_pos hplace
    rw [cell, cell, update_area]
    split
    · next hcell =>
      have hne : b.index x y ≠ b.index u v := by
        intro heq
        obtain ⟨hx, hy⟩ := index_inj hplace hcell heq
        exact h ⟨hx.symm, hy.symm⟩
      have hindex : (b.update x y f).index u v = b.index u v := by rw [hupdate]; rfl
      rw [hindex, hupdate]
      simp [Array.getElem?_modify, hne]
    · rfl
  · rw [update, if_neg hplace]
    rfl

variable {places : List (ℕ × ℕ)}

@[simp] theorem updateAll_area (b : Buffer) (places : List (ℕ × ℕ)) (f : Cell → Cell) :
    (b.updateAll places f).area = b.area := by
  induction places generalizing b with
  | nil => rfl
  | cons p rest ih => exact (ih _).trans (b.update_area p.1 p.2 f)

theorem Full.updateAll (h : b.Full) (places : List (ℕ × ℕ)) (f : Cell → Cell) :
    (b.updateAll places f).Full := by
  induction places generalizing b with
  | nil => exact h
  | cons p rest ih => exact ih (h.update p.1 p.2 f)

/-- Cells at other places stay as they were. -/
theorem cell_updateAll_of_not_mem (h : (u, v) ∉ places) :
    (b.updateAll places f).cell u v = b.cell u v := by
  induction places generalizing b with
  | nil => rfl
  | cons p rest ih =>
    obtain ⟨hp, hrest⟩ := not_or.mp (mt List.mem_cons.mpr h)
    have hne : ¬ (u = p.1 ∧ v = p.2) := fun ⟨hu, hv⟩ => hp (Prod.ext hu hv)
    exact (ih hrest).trans (cell_update_of_ne hne)

/-- Where a place gets the same content each time, it has it in the end. -/
theorem cell_updateAll_const (hb : b.Full) {c : Cell} (h : (u, v) ∈ places)
    (hplace : b.area.contains u v = true) : (b.updateAll places fun _ => c).cell u v = c := by
  induction places generalizing b with
  | nil => exact absurd h List.not_mem_nil
  | cons p rest ih =>
    change ((b.update p.1 p.2 fun _ => c).updateAll rest fun _ => c).cell u v = c
    -- a place may be given more than once; the last time decides
    by_cases hrest : (u, v) ∈ rest
    · exact ih (hb.update _ _ _) hrest (by rwa [update_area])
    · have hp : (u, v) = p := (List.mem_cons.mp h).resolve_right hrest
      rw [cell_updateAll_of_not_mem hrest, ← hp]
      exact cell_update_self hb hplace

theorem mem_run {x y n : ℕ} :
    (u, v) ∈ ((List.range n).map fun i => (x + i, y)) ↔ x ≤ u ∧ u < x + n ∧ v = y := by
  simp only [List.mem_map, List.mem_range, Prod.mk.injEq]
  constructor
  · rintro ⟨i, hi, rfl, rfl⟩
    exact ⟨Nat.le_add_right x i, by omega, rfl⟩
  · rintro ⟨hle, hlt, rfl⟩
    exact ⟨u - x, by omega, by omega, rfl⟩

@[simp] theorem clearRun_area (b : Buffer) (x y n : ℕ) : (b.clearRun x y n).area = b.area :=
  updateAll_area _ _ _

theorem cell_clearRun_of_outside {n : ℕ} (h : v ≠ y ∨ u < x ∨ x + n ≤ u) :
    (b.clearRun x y n).cell u v = b.cell u v := by
  refine cell_updateAll_of_not_mem fun hmem => ?_
  have hrun := mem_run.mp hmem
  omega

theorem cell_clearRun {n : ℕ} (hb : b.Full) (hle : x ≤ u) (hlt : u < x + n)
    (hplace : b.area.contains u y = true) : (b.clearRun x y n).cell u y = .blank :=
  cell_updateAll_const hb (mem_run.mpr ⟨hle, hlt, rfl⟩) hplace

/-- The places of a rectangle are those that it contains. -/
theorem mem_places {a : Area} : (u, v) ∈ Buffer.places a ↔ a.contains u v = true := by
  simp only [Buffer.places, List.mem_flatMap, List.mem_map, List.mem_range, Prod.mk.injEq,
    Area.contains_iff, Area.right, Area.bottom]
  constructor
  · rintro ⟨j, hj, i, hi, rfl, rfl⟩
    omega
  · rintro ⟨hx, hright, hy, hbottom⟩
    exact ⟨v - a.y, by omega, u - a.x, by omega, by omega, by omega⟩

/-- A style is set inside its rectangle only. -/
theorem cell_setStyle_of_outside {a : Area} (h : a.contains u v = false) (s : Style) :
    (b.setStyle a s).cell u v = b.cell u v := by
  refine cell_updateAll_of_not_mem fun hmem => ?_
  have hinside := mem_places.mp (List.mem_filter.mp hmem).1
  rw [h] at hinside
  exact Bool.noConfusion hinside

theorem Full.setStyle (h : b.Full) (a : Area) (s : Style) : (b.setStyle a s).Full :=
  h.updateAll _ _

@[simp] theorem setStyle_area (b : Buffer) (a : Area) (s : Style) : (b.setStyle a s).area = b.area :=
  updateAll_area _ _ _

/-- A change overruns the buffer exactly where there is no cell. -/
theorem overrun_update (b : Buffer) (x y : ℕ) (f : Cell → Cell) :
    (b.update x y f).overrun = (b.overrun || !b.area.contains x y) := by
  unfold update
  split
  · next h => rw [h, Bool.not_true, Bool.or_false]
  · next h => rw [Bool.eq_false_iff.mpr h, Bool.not_false, Bool.or_true]

/-- A buffer is overrun by a change of several places if and only if one of them is not there. -/
theorem overrun_updateAll (b : Buffer) (places : List (ℕ × ℕ)) (f : Cell → Cell) :
    (b.updateAll places f).overrun =
      (b.overrun || places.any fun p => !b.area.contains p.1 p.2) := by
  induction places generalizing b with
  | nil => exact (Bool.or_false b.overrun).symm
  | cons p rest ih =>
    have hrest := ih (b.update p.1 p.2 f)
    rw [overrun_update, update_area] at hrest
    rw [List.any_cons, ← Bool.or_assoc]
    exact hrest

/-- Changes inside the buffer do not overrun it. -/
theorem overrun_updateAll_of_inside (h : ∀ p ∈ places, b.area.contains p.1 p.2 = true) :
    (b.updateAll places f).overrun = b.overrun := by
  have hnone : (places.any fun p => !b.area.contains p.1 p.2) = false := by
    rw [List.any_eq_false]
    exact fun p hp => by rw [h p hp]; decide
  rw [overrun_updateAll, hnone, Bool.or_false]

/-- Only cells that are there are styled. -/
@[simp] theorem overrun_setStyle (b : Buffer) (a : Area) (s : Style) :
    (b.setStyle a s).overrun = b.overrun :=
  overrun_updateAll_of_inside fun _ hp => (List.mem_filter.mp hp).2

end Buffer

end LogTail.Screen

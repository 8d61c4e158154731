import Mathlib.Tactic.ByContra
import LogTail.Proofs.Screen.Buffer

/-!
Where the glyphs of a line come to stand when it is written into a row. Each takes the columns after the
one before it, none is cut, and so they can all be read off the row afterwards.
-/
namespace LogTail.Screen

structure Placed where
  column : ℕ
  glyph : Glyph

namespace Placed

def stop (p : Placed) : ℕ :=
  p.column + p.glyph.width

/-- Whether glyphs stand one after another between two columns, and each has some width. -/
structure LinedUp (first last : ℕ) (ps : List Placed) : Prop where
  inside : ∀ p ∈ ps, first ≤ p.column ∧ p.stop ≤ last
  wide : ∀ p ∈ ps, 1 ≤ p.glyph.width
  apart : ps.Pairwise fun p q => p.stop ≤ q.column

namespace LinedUp

variable {first middle last : ℕ} {p : Placed} {ps qs : List Placed}

theorem nil (first last : ℕ) : LinedUp first last [] :=
  ⟨by simp, by simp, .nil⟩

/-- Two rows of glyphs make one if the second begins where the first ends. -/
theorem append (hp : LinedUp first middle ps) (hq : LinedUp middle last qs) (hle : first ≤ middle)
    (hle' : middle ≤ last) : LinedUp first last (ps ++ qs) := by
  refine ⟨?_, ?_, ?_⟩
  · intro p hmem
    rcases List.mem_append.mp hmem with h | h
    · have hinside := hp.inside p h
      omega
    · have hinside := hq.inside p h
      omega
  · intro p hmem
    exact (List.mem_append.mp hmem).elim (hp.wide p) (hq.wide p)
  · refine List.pairwise_append.mpr ⟨hp.apart, hq.apart, fun p hpmem q hqmem => ?_⟩
    exact Nat.le_trans (hp.inside p hpmem).2 (hq.inside q hqmem).1

theorem cons (hwide : 1 ≤ p.glyph.width) (h : LinedUp p.stop last ps) (hle : p.stop ≤ last) :
    LinedUp p.column last (p :: ps) := by
  have hsingle : LinedUp p.column p.stop [p] :=
    ⟨by simp, by simpa using hwide, List.pairwise_singleton _ _⟩
  exact hsingle.append h (Nat.le_add_right _ _) hle

theorem mono (h : LinedUp first last ps) {first' last' : ℕ} (hfirst : first' ≤ first)
    (hlast : last ≤ last') : LinedUp first' last' ps :=
  ⟨fun p hp => have hin := h.inside p hp; ⟨by omega, by omega⟩, h.wide, h.apart⟩

end LinedUp

def stopAfter (x : ℕ) : List Placed → ℕ
  | [] => x
  | p :: rest => stopAfter p.stop rest

end Placed

open Placed

/-- The places of clusters that are written into `room` columns from column `x` on. -/
def placeClusters (x room : ℕ) (s : Style) : List (List Char) → List Placed
  | [] => []
  | c :: rest =>
    let w := Text.width c
    if w = 0 then placeClusters x room s rest
    else if room < w then []
    else ⟨x, ⟨c, s⟩⟩ :: placeClusters (x + w) (room - w) s rest

/-- The places of a line that is written into `room` columns from column `x` on, in a buffer that ends
before the column `limit`. -/
def placeLine (limit x room : ℕ) : Line → List Placed
  | [] => []
  | span :: rest =>
    if room = 0 then []
    else
      let ps := placeClusters x (min room (limit - x)) span.style (Buffer.printable span.text)
      ps ++ placeLine limit (stopAfter x ps) (room - (stopAfter x ps - x)) rest

def Span.visible (s : Span) : List Glyph :=
  ((Buffer.printable s.text).filter (Text.width · ≠ 0)).map (⟨·, s.style⟩)

def Line.visible (l : Line) : List Glyph :=
  l.flatMap Span.visible

section places

variable {x room limit : ℕ} {s : Style}

theorem stopAfter_append (x : ℕ) (ps qs : List Placed) :
    stopAfter x (ps ++ qs) = stopAfter (stopAfter x ps) qs := by
  induction ps generalizing x with
  | nil => rfl
  | cons p rest ih => exact ih p.stop

/-- Clusters are placed one after another and not beyond their room. -/
theorem placeClusters_linedUp (x room : ℕ) (s : Style) (cs : List (List Char)) :
    LinedUp x (stopAfter x (placeClusters x room s cs)) (placeClusters x room s cs) ∧
      x ≤ stopAfter x (placeClusters x room s cs) ∧
      stopAfter x (placeClusters x room s cs) ≤ x + room := by
  induction cs generalizing x room with
  | nil => exact ⟨.nil _ _, Nat.le_refl x, Nat.le_add_right x room⟩
  | cons c rest ih =>
    simp only [placeClusters]
    split
    · exact ih x room
    split
    · exact ⟨.nil _ _, Nat.le_refl x, Nat.le_add_right x room⟩
    · next hwidth hroom =>
      obtain ⟨hlined, hle, hroom'⟩ := ih (x + Text.width c) (room - Text.width c)
      refine ⟨.cons (p := ⟨x, ⟨c, s⟩⟩) (Nat.pos_of_ne_zero hwidth) hlined hle, ?_, ?_⟩
      · exact Nat.le_trans (Nat.le_add_right _ _) hle
      · exact Nat.le_trans hroom' (by omega)

/-- The same of a line, whose spans share the room and may be cut off by the end of the buffer. -/
theorem placeLine_linedUp (limit x room : ℕ) (l : Line) :
    LinedUp x (stopAfter x (placeLine limit x room l)) (placeLine limit x room l) ∧
      x ≤ stopAfter x (placeLine limit x room l) ∧
      stopAfter x (placeLine limit x room l) ≤ x + min room (limit - x) := by
  induction l generalizing x room with
  | nil => exact ⟨.nil _ _, Nat.le_refl x, Nat.le_add_right x _⟩
  | cons span rest ih =>
    simp only [placeLine]
    split
    · exact ⟨.nil _ _, Nat.le_refl x, Nat.le_add_right x _⟩
    · -- the next span begins where this one stops, with the room that is left
      obtain ⟨hfirst, hle, hroom⟩ := placeClusters_linedUp x (min room (limit - x)) span.style
        (Buffer.printable span.text)
      generalize placeClusters x _ _ _ = ps at *
      obtain ⟨hrest, hle', hroom'⟩ := ih (stopAfter x ps) (room - (stopAfter x ps - x))
      rw [stopAfter_append]
      exact ⟨hfirst.append hrest hle hle', by omega, by omega⟩

/-- Clusters come to stand in their order, from the first visible one on. -/
theorem placeClusters_glyphs (x room : ℕ) (s : Style) (cs : List (List Char)) :
    (placeClusters x room s cs).map (·.glyph) <+:
      (cs.filter (Text.width · ≠ 0)).map (⟨·, s⟩ : List Char → Glyph) := by
  induction cs generalizing x room with
  | nil => exact List.nil_prefix
  | cons c rest ih =>
    simp only [placeClusters]
    split
    · next h => simpa [h] using ih x room
    split
    · exact List.nil_prefix
    · next h _ => simpa [h] using ih (x + Text.width c) (room - Text.width c)

/-- What is placed of a line are visible glyphs of it, in their order. -/
theorem placeLine_glyphs (limit x room : ℕ) (l : Line) :
    ((placeLine limit x room l).map (·.glyph)).Sublist l.visible := by
  induction l generalizing x room with
  | nil => exact List.Sublist.refl _
  | cons span rest ih =>
    simp only [placeLine]
    split
    · exact List.nil_sublist _
    · rw [List.map_append, Line.visible, List.flatMap_cons]
      exact (placeClusters_glyphs _ _ _ _).sublist.append (ih _ _)

theorem placeClusters_eq_nil_iff (x room : ℕ) (s : Style) (cs : List (List Char)) :
    placeClusters x room s cs = [] ↔
      ∀ g, ((cs.filter (Text.width · ≠ 0)).map (⟨·, s⟩ : List Char → Glyph)).head? = some g →
        room < g.width := by
  induction cs with
  | nil => simp [placeClusters]
  | cons c rest ih =>
    simp only [placeClusters]
    split
    · next h => simpa [h] using ih
    split
    · next h hroom => simp [h, hroom, Glyph.width]
    · next h hroom => simp [h, hroom, Glyph.width]

theorem width_of_mem_visible {span : Span} {g : Glyph} (h : g ∈ span.visible) : 1 ≤ g.width := by
  obtain ⟨c, hc, rfl⟩ := List.mem_map.mp h
  have hwidth : Text.width c ≠ 0 := by simpa using (List.mem_filter.mp hc).2
  exact Nat.pos_of_ne_zero hwidth

/-- Something of a line is written if the first visible glyph of one of its spans has room. -/
theorem placeLine_ne_nil_iff (limit x room : ℕ) (l : Line) :
    placeLine limit x room l ≠ [] ↔
      ∃ span ∈ l, ∃ g, span.visible.head? = some g ∧ g.width ≤ min room (limit - x) := by
  induction l with
  | nil => simp [placeLine]
  | cons span rest ih =>
    have hspan : placeClusters x (min room (limit - x)) span.style (Buffer.printable span.text) = [] ↔
        ∀ g, span.visible.head? = some g → min room (limit - x) < g.width :=
      placeClusters_eq_nil_iff _ _ _ _
    simp only [placeLine, List.mem_cons, exists_eq_or_imp]
    by_cases hroom : room = 0
    · rw [if_pos hroom]
      refine iff_of_false (fun h => h rfl) ?_
      rintro (⟨g, hg, hle⟩ | ⟨other, -, g, hg, hle⟩) <;>
      · have hwidth := width_of_mem_visible (List.mem_of_mem_head? hg)
        omega
    · rw [if_neg hroom]
      by_cases hnil : placeClusters x (min room (limit - x)) span.style (Buffer.printable span.text) = []
      · -- a span that takes no column leaves all its room to the next ones
        have hnone : ¬ ∃ g, span.visible.head? = some g ∧ g.width ≤ min room (limit - x) :=
          fun ⟨g, hg, hle⟩ => Nat.not_lt.mpr hle (hspan.mp hnil g hg)
        rw [hnil, List.nil_append, stopAfter, Nat.sub_self, Nat.sub_zero, ih]
        exact (or_iff_right hnone).symm
      · refine iff_of_true (List.append_ne_nil_of_left_ne_nil hnil _) (.inl ?_)
        by_contra hnone
        refine hnil (hspan.mpr fun g hg => ?_)
        exact Nat.not_le.mp fun hle => hnone ⟨g, hg, hle⟩

end places

namespace Buffer

def stamp (b : Buffer) (y : ℕ) (p : Placed) : Buffer :=
  (b.update p.column y (·.write p.glyph.symbol p.glyph.style)).clearRun (p.column + 1) y
    (p.glyph.width - 1)

def stampAll (b : Buffer) (y : ℕ) (ps : List Placed) : Buffer :=
  ps.foldl (fun b p => b.stamp y p) b

def Shows (b : Buffer) (y : ℕ) (p : Placed) : Prop :=
  (b.cell p.column y).symbol = p.glyph.symbol ∧
    ∀ x, p.column < x → x < p.stop → (b.cell x y).symbol = [' ']

variable {b : Buffer} {y : ℕ} {p : Placed} {ps : List Placed}

@[simp] theorem stamp_area (b : Buffer) (y : ℕ) (p : Placed) : (b.stamp y p).area = b.area := by
  rw [stamp, clearRun_area, update_area]

@[simp] theorem stampAll_area (b : Buffer) (y : ℕ) (ps : List Placed) :
    (b.stampAll y ps).area = b.area := by
  induction ps generalizing b with
  | nil => rfl
  | cons p rest ih => exact (ih _).trans (b.stamp_area y p)

theorem Full.stamp (h : b.Full) (y : ℕ) (p : Placed) : (b.stamp y p).Full :=
  (h.update _ _ _).updateAll _ _

theorem stampAll_append (b : Buffer) (y : ℕ) (ps qs : List Placed) :
    b.stampAll y (ps ++ qs) = (b.stampAll y ps).stampAll y qs :=
  List.foldl_append

/-- To write clusters is to stamp them at their places. -/
theorem writeClusters_eq (b : Buffer) (x y room : ℕ) (s : Style) (cs : List (List Char)) :
    b.writeClusters x y room s cs =
      (b.stampAll y (placeClusters x room s cs), stopAfter x (placeClusters x room s cs)) := by
  induction cs generalizing b x room with
  | nil => rfl
  | cons c rest ih =>
    simp only [writeClusters, placeClusters]
    split
    · exact ih b x room
    split
    · rfl
    · exact ih _ (x + Text.width c) (room - Text.width c)

/-- Writing a line comes to stamping glyphs at the places of the line. -/
theorem writeLine_eq (b : Buffer) (x y room : ℕ) (l : Line) :
    b.writeLine x y room l = b.stampAll y (placeLine b.area.right x room l) := by
  induction l generalizing b x room with
  | nil => rfl
  | cons span rest ih =>
    simp only [writeLine, placeLine, writeText, writeClusters_eq]
    split
    · rfl
    · rw [stampAll_append, ih, stampAll_area]

theorem cell_stamp_of_outside {u v : ℕ} (hwide : 1 ≤ p.glyph.width)
    (h : v ≠ y ∨ u < p.column ∨ p.stop ≤ u) : (b.stamp y p).cell u v = b.cell u v := by
  unfold stop at h
  rw [stamp, cell_clearRun_of_outside (by omega)]
  exact cell_update_of_ne (by omega)

/-- A cell that no glyph covers stays as it was. -/
theorem cell_stampAll_of_outside {u v : ℕ} (hwide : ∀ p ∈ ps, 1 ≤ p.glyph.width)
    (h : ∀ p ∈ ps, v ≠ y ∨ u < p.column ∨ p.stop ≤ u) : (b.stampAll y ps).cell u v = b.cell u v := by
  induction ps generalizing b with
  | nil => rfl
  | cons p rest ih =>
    obtain ⟨hp, hrest⟩ := List.forall_mem_cons.mp h
    obtain ⟨hwide', hwiderest⟩ := List.forall_mem_cons.mp hwide
    exact (ih hwiderest hrest).trans (cell_stamp_of_outside hwide' hp)

/-- A glyph that lies inside the buffer can be read where it was stamped. -/
theorem stamp_shows (hb : b.Full) (hwide : 1 ≤ p.glyph.width) (hfirst : b.area.x ≤ p.column)
    (hlast : p.stop ≤ b.area.right) (hy : b.area.y ≤ y) (hy' : y < b.area.bottom) :
    (b.stamp y p).Shows y p := by
  unfold stop at hlast
  refine ⟨?_, fun x hx hx' => ?_⟩
  · rw [stamp, cell_clearRun_of_outside (.inr (.inl (Nat.lt_succ_self _))), cell_update_self hb]
    · rfl
    · exact Area.contains_iff.mpr ⟨hfirst, by omega, hy, hy'⟩
  · unfold stop at hx'
    rw [stamp, cell_clearRun (hb.update _ _ _) hx (by omega)]
    · rfl
    · rw [update_area]
      exact Area.contains_iff.mpr ⟨by omega, by omega, hy, hy'⟩

/-- Glyphs that are lined up in a row of the buffer can all be read after they were written. -/
theorem stampAll_shows {first last : ℕ} (hb : b.Full) (h : LinedUp first last ps)
    (hfirst : b.area.x ≤ first) (hlast : last ≤ b.area.right) (hy : b.area.y ≤ y)
    (hy' : y < b.area.bottom) : ∀ p ∈ ps, (b.stampAll y ps).Shows y p := by
  induction ps generalizing b with
  | nil => simp
  | cons q rest ih =>
    obtain ⟨hq, hrest⟩ := List.forall_mem_cons.mp h.inside
    obtain ⟨hwide, hwiderest⟩ := List.forall_mem_cons.mp h.wide
    obtain ⟨hapart, hapartrest⟩ := List.pairwise_cons.mp h.apart
    intro p hp
    rcases List.mem_cons.mp hp with rfl | hp
    · -- the glyphs that follow are behind this one
      have hshows : (b.stamp y p).Shows y p :=
        stamp_shows hb hwide (by omega) (by omega) hy hy'
      have hkept {u : ℕ} (hu : u < p.stop) :
          (b.stampAll y (p :: rest)).cell u y = (b.stamp y p).cell u y :=
        cell_stampAll_of_outside hwiderest fun q hqmem =>
          .inr (.inl (Nat.lt_of_lt_of_le hu (hapart q hqmem)))
      refine ⟨?_, fun x hx hx' => ?_⟩
      · rw [hkept (Nat.lt_add_of_pos_right hwide), hshows.1]
      · rw [hkept hx', hshows.2 x hx hx']
    · exact ih (hb.stamp y q) ⟨hrest, hwiderest, hapartrest⟩ (by rwa [stamp_area])
        (by rwa [stamp_area]) (by rwa [stamp_area]) (by rwa [stamp_area]) p hp

/-- A glyph inside the buffer does not overrun it. -/
theorem overrun_stamp_of_inside (hwide : 1 ≤ p.glyph.width) (hfirst : b.area.x ≤ p.column)
    (hlast : p.stop ≤ b.area.right) (hy : b.area.y ≤ y) (hy' : y < b.area.bottom) :
    (b.stamp y p).overrun = b.overrun := by
  unfold stop at hlast
  rw [stamp, clearRun, overrun_updateAll_of_inside, overrun_update]
  · rw [Area.contains_iff.mpr ⟨hfirst, by omega, hy, hy'⟩, Bool.not_true, Bool.or_false]
  · rintro ⟨u, v⟩ hmem
    obtain ⟨hle, hlt, rfl⟩ := mem_run.mp hmem
    rw [update_area]
    exact Area.contains_iff.mpr ⟨by omega, by omega, hy, hy'⟩

/-- Glyphs that are lined up in a row of the buffer are written into cells that are there. -/
theorem overrun_stampAll_of_inside {first last : ℕ} (h : LinedUp first last ps)
    (hfirst : b.area.x ≤ first) (hlast : last ≤ b.area.right) (hy : b.area.y ≤ y)
    (hy' : y < b.area.bottom) : (b.stampAll y ps).overrun = b.overrun := by
  induction ps generalizing b first with
  | nil => rfl
  | cons p rest ih =>
    obtain ⟨hp, hrest⟩ := List.forall_mem_cons.mp h.inside
    obtain ⟨hwide, hwiderest⟩ := List.forall_mem_cons.mp h.wide
    have htail : LinedUp first last rest :=
      ⟨hrest, hwiderest, (List.pairwise_cons.mp h.apart).2⟩
    have hstamp : (b.stamp y p).overrun = b.overrun :=
      overrun_stamp_of_inside hwide (by omega) (by omega) hy hy'
    exact (ih htail (by rwa [stamp_area]) (by rwa [stamp_area]) (by rwa [stamp_area])
      (by rwa [stamp_area])).trans hstamp

theorem overrun_stamp (b : Buffer) (y : ℕ) (p : Placed) :
    (b.stamp y p).overrun = (b.overrun || !b.area.contains p.column y ||
      ((List.range (p.glyph.width - 1)).map fun i => (p.column + 1 + i, y)).any
        fun q => !b.area.contains q.1 q.2) := by
  rw [stamp, clearRun, overrun_updateAll, overrun_update, update_area]

theorem overrun_stampAll_of_overrun (h : b.overrun = true) (y : ℕ) (ps : List Placed) :
    (b.stampAll y ps).overrun = true := by
  induction ps generalizing b with
  | nil => exact h
  | cons p rest ih => exact ih (by rw [overrun_stamp, h, Bool.true_or, Bool.true_or])

/-- No glyph can be written below the buffer. -/
theorem overrun_stampAll_of_below (hps : ps ≠ []) (hy : b.area.bottom ≤ y) :
    (b.stampAll y ps).overrun = true := by
  obtain ⟨p, rest, rfl⟩ := List.exists_cons_of_ne_nil hps
  have hplace : b.area.contains p.column y = false := by
    refine Bool.eq_false_iff.mpr fun hmem => ?_
    exact Nat.not_lt.mpr hy (Area.contains_iff.mp hmem).2.2.2
  refine overrun_stampAll_of_overrun ?_ y rest
  rw [overrun_stamp, hplace, Bool.not_false, Bool.or_true, Bool.true_or]

end Buffer

end LogTail.Screen

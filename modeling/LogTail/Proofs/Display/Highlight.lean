import LogTail.Display.LogScreen
import LogTail.Proofs.Filter.Ranges

/-!
What matches is marked. A text is cut into spans at the ranges that match, and the spans put together
are the text again. What stands between two ranges is a span if it is anything at all.
-/
namespace LogTail.Display

open LogTail.Screen
open Text (byteSize)
open TextFilter (Range)

variable {cs part : List Char} {offset first last : ℕ} {r : Range}

/-- A slice of a text in two parts is made of the slices of its parts, the second of them counted on
from where the first one ends. -/
theorem slice_append (offset first last : ℕ) (cs ds : List Char) :
    slice offset first last (cs ++ ds) =
      slice offset first last cs ++ slice (offset + byteSize cs) first last ds := by
  induction cs generalizing offset with
  | nil => rfl
  | cons c rest ih =>
    rw [List.cons_append, slice, slice, ih, Text.byteSize_cons, Nat.add_assoc]
    split <;> rfl

theorem slice_of_before (h : offset + byteSize cs ≤ first) : slice offset first last cs = [] := by
  induction cs generalizing offset with
  | nil => rfl
  | cons c rest ih =>
    have hc := c.utf8Size_pos
    rw [Text.byteSize_cons] at h
    rw [slice, if_neg (by omega)]
    exact ih (by omega)

theorem slice_of_behind (h : last ≤ offset) : slice offset first last cs = [] := by
  induction cs generalizing offset with
  | nil => rfl
  | cons c rest ih =>
    rw [slice, if_neg (by omega)]
    exact ih (by omega)

/-- A part that lies inside the range comes out whole. -/
theorem slice_of_within (hfirst : first ≤ offset) (hlast : offset + byteSize cs ≤ last) :
    slice offset first last cs = cs := by
  induction cs generalizing offset with
  | nil => rfl
  | cons c rest ih =>
    have hc := c.utf8Size_pos
    rw [Text.byteSize_cons] at hlast
    rw [slice, if_pos (by omega), ih (by omega) (by omega)]

/-- What is cut out is what stands in the range. -/
theorem slice_eq_of_covers (h : r.Covers cs part) : slice 0 r.first r.last cs = part := by
  obtain ⟨before, after, rfl, hfirst, hlast⟩ := h
  have hsize := Text.byteSize_append before part
  rw [slice_append, slice_append, slice_of_before (by omega), slice_of_within (by omega) (by omega),
    slice_of_behind (by omega), List.nil_append, List.append_nil]

structure Piece where
  text : List Char
  marked : Bool

namespace Piece

def span (base : Style) (p : Piece) : Span :=
  ⟨p.text, if p.marked then Theme.searchMatch else base⟩

def marks (offset : ℕ) : List Piece → List Range
  | [] => []
  | p :: rest =>
    let after := offset + byteSize p.text
    (if p.marked then [⟨offset, after⟩] else []) ++ marks after rest

end Piece

/-- A cut at ranges of a text from `offset` on: pieces of what is left of it, with these ranges marked. -/
structure Cut (base : Style) (offset : ℕ) (rest : List Char) (ranges : List Range)
    (spans : List Span) (pieces : List Piece) : Prop where
  spans_eq : spans = pieces.map (Piece.span base)
  text_eq : pieces.flatMap (·.text) = rest
  marks_eq : Piece.marks offset pieces = ranges
  some_text : ∀ p ∈ pieces, p.text ≠ []

variable {base : Style} {rest : List Char} {ranges : List Range} {spans : List Span}
  {pieces : List Piece}

/-- One more marked piece in front of a cut. -/
theorem Cut.cons_marked (h : Cut base r.last rest ranges spans pieces)
    (hlast : r.last = r.first + byteSize part) (hsome : part ≠ []) :
    Cut base r.first (part ++ rest) (r :: ranges) (⟨part, Theme.searchMatch⟩ :: spans)
      (⟨part, true⟩ :: pieces) where
  spans_eq := by
    rw [h.spans_eq]
    rfl
  text_eq := by
    rw [List.flatMap_cons, h.text_eq]
  marks_eq := by
    rw [Piece.marks, ← hlast, h.marks_eq]
    rfl
  some_text := List.forall_mem_cons.mpr ⟨hsome, h.some_text⟩

/-- What stands before the next range is a piece if it is anything at all. -/
theorem Cut.gap (h : Cut base last rest ranges spans pieces)
    (hlast : last = offset + byteSize part) :
    ∃ pieces, Cut base offset (part ++ rest) ranges
      ((if offset < last then [⟨part, base⟩] else []) ++ spans) pieces := by
  by_cases hpart : part = []
  · obtain rfl : last = offset := by simp [hlast, hpart]
    refine ⟨pieces, ?_⟩
    simpa [hpart] using h
  · have hpos := Text.byteSize_pos hpart
    rw [if_pos (by omega)]
    refine ⟨⟨part, false⟩ :: pieces, ?_, ?_, ?_, List.forall_mem_cons.mpr ⟨hpart, h.some_text⟩⟩
    · rw [h.spans_eq]
      rfl
    · rw [List.flatMap_cons, h.text_eq]
    · rw [Piece.marks, ← hlast, h.marks_eq]
      rfl

/-- Marking cuts what is left of a text at the ranges, if these follow one another in it. -/
theorem cut_markFrom (base : Style) {text before : List Char} (htext : text = before ++ rest)
    (hpairwise : ranges.Pairwise fun a b => a.last ≤ b.first)
    (hcovers : ∀ r ∈ ranges, byteSize before ≤ r.first ∧ r.first < r.last ∧ ∃ part, r.Covers text part) :
    ∃ pieces, Cut base (byteSize before) rest ranges
      (markFrom base text (byteSize text) (byteSize before) ranges) pieces := by
  -- by induction on the ranges, where `before` ends with the last one marked
  induction ranges generalizing before rest with
  | nil =>
    have hrest : slice 0 (byteSize before) (byteSize text) text = rest :=
      slice_eq_of_covers (r := ⟨byteSize before, byteSize text⟩)
        ⟨before, [], by rw [List.append_nil, htext], rfl, by rw [htext]⟩
    have hend : Cut base (byteSize text) [] [] [] [] := ⟨rfl, rfl, rfl, by simp⟩
    have hsize : byteSize text = byteSize before + byteSize rest := by
      rw [htext, Text.byteSize_append]
    have hcut := hend.gap hsize
    rw [List.append_nil, List.append_nil] at hcut
    rw [markFrom, hrest]
    exact hcut
  | cons r ranges ih =>
    obtain ⟨⟨hbegin, hlt, part, hpart⟩, hranges⟩ := List.forall_mem_cons.mp hcovers
    obtain ⟨hbehind, hpairwise⟩ := List.pairwise_cons.mp hpairwise
    have hmarked := slice_eq_of_covers hpart
    obtain ⟨front, after, hsplit, hfirst, hlast⟩ := hpart
    -- what stands before the range is what is done and a gap
    have hfront : before <+: front := by
      refine Text.prefix_of_byteSize_le (htext ▸ List.prefix_append _ _) ?_ (by omega)
      rw [hsplit, List.append_assoc]
      exact List.prefix_append _ _
    obtain ⟨gap, rfl⟩ := hfront
    have hrest : rest = gap ++ (part ++ after) := by
      have hboth := htext.symm.trans hsplit
      simpa only [List.append_assoc, List.append_cancel_left_eq] using hboth
    have hgap : slice 0 (byteSize before) r.first text = gap :=
      slice_eq_of_covers (r := ⟨byteSize before, r.first⟩)
        ⟨before, part ++ after, by rw [hsplit, List.append_assoc], rfl, hfirst⟩
    -- a range of no bytes would be marked by an empty piece
    have hsome : part ≠ [] := by
      rintro rfl
      rw [List.append_nil] at hlast
      omega
    have hlater : ∀ b ∈ ranges, byteSize (before ++ gap ++ part) ≤ b.first ∧ b.first < b.last ∧
        ∃ part, b.Covers text part := by
      intro b hb
      rw [← hlast]
      exact ⟨hbehind b hb, (hranges b hb).2⟩
    obtain ⟨pieces, hcut⟩ := ih hsplit hpairwise hlater
    rw [← hlast] at hcut
    have hnext := (hcut.cons_marked (by rw [hlast, hfirst, Text.byteSize_append]) hsome).gap
      (hfirst.trans (Text.byteSize_append before gap))
    rw [markFrom, hgap, hmarked, hrest]
    exact hnext

/-- The ranges that match ascend and do not overlap, each covers whole characters among which the filter
is found, and there is one if the filter is found at all. Marking cuts the text into pieces that are the
text again, of which the marked ones stand in just these ranges; a piece beside a mark is never empty. -/
theorem marked_at_ranges (f : TextFilter) (text : String) (base : Style) :
    let ranges := f.ranges text
    (ranges = [] ↔ f.needle = [] ∨ ¬ f.needle <:+: Text.lowerEach text.toList) ∧
    ranges.Pairwise (fun a b => a.first < b.first ∧ a.last ≤ b.first) ∧
    (∀ r ∈ ranges, r.first < r.last ∧ r.last ≤ text.utf8ByteSize ∧
      ∃ part, r.Covers text.toList part ∧ f.needle <:+: Text.lowerEach part) ∧
    ∃ pieces : List Piece, highlighted f text.toList base = pieces.map (Piece.span base) ∧
      pieces.flatMap (·.text) = text.toList ∧ Piece.marks 0 pieces = ranges ∧
      (ranges ≠ [] → ∀ p ∈ pieces, p.text ≠ []) := by
  intro ranges
  have hpairwise : ranges.Pairwise fun a b => a.last ≤ b.first := TextFilter.pairwise_ranges f text
  have hcovers : ∀ r ∈ ranges, ∃ part, r.Covers text.toList part ∧
      f.needle <:+: Text.lowerEach part ∧ r.first < r.last :=
    fun r hr => TextFilter.covers_of_mem_ranges hr
  refine ⟨TextFilter.ranges_eq_nil_iff, ?_, ?_, ?_⟩
  · refine hpairwise.imp_of_mem ?_
    intro a b ha hb hab
    obtain ⟨part, -, -, hlt⟩ := hcovers a ha
    exact ⟨by omega, hab⟩
  · intro r hr
    obtain ⟨part, hpart, hfound, hlt⟩ := hcovers r hr
    refine ⟨hlt, ?_, part, hpart, hfound⟩
    rw [← Text.byteSize_toList]
    exact hpart.last_le
  · by_cases hnone : ranges = []
    · -- without a range the text is one piece, even if it is empty
      refine ⟨[⟨text.toList, false⟩], ?_, by simp, by rw [hnone]; rfl, fun hsome => absurd hnone hsome⟩
      have hranges : f.ranges (String.ofList text.toList) = [] := by
        rw [String.ofList_toList]
        exact hnone
      rw [highlighted, hranges]
      rfl
    · have hall : ∀ r ∈ ranges, 0 ≤ r.first ∧ r.first < r.last ∧ ∃ part, r.Covers text.toList part := by
        intro r hr
        obtain ⟨part, hpart, -, hlt⟩ := hcovers r hr
        exact ⟨Nat.zero_le _, hlt, part, hpart⟩
      have htext : text.toList = [] ++ text.toList := rfl
      obtain ⟨pieces, hcut⟩ := cut_markFrom base htext hpairwise hall
      refine ⟨pieces, ?_, hcut.text_eq, hcut.marks_eq, fun _ => hcut.some_text⟩
      rw [← hcut.spans_eq, highlighted, String.ofList_toList]
      split
      case h_1 hranges => exact absurd hranges hnone
      case h_2 => rw [Text.byteSize_toList]; rfl

/-- Two matches that share a capital letter, of which the small one is two characters, are one mark. -/
theorem marked_at_ranges_shared :
    let f : TextFilter := ⟨"\u0307i"⟩
    let text := "İİİ"
    (∃ part, Range.Covers ⟨0, 6⟩ text.toList part ∧ f.needle <:+: Text.lowerEach part) ∧
      ∃ pieces : List Piece, highlighted f text.toList Theme.text = pieces.map (Piece.span Theme.text) ∧
        Piece.marks 0 pieces = [⟨0, 6⟩] ∧ ∀ p ∈ pieces, p.text ≠ [] := by
  intro f text
  have hoccurrences :
      TextFilter.occurrences f.needle 0 (TextFilter.folded 0 text.toList) = [⟨0, 4⟩, ⟨2, 6⟩] := by
    decide
  have hranges : f.ranges text = [⟨0, 6⟩] := by
    rw [TextFilter.ranges_of_needle (by decide), hoccurrences]
    simp [TextFilter.joined]
  obtain ⟨-, -, hmarked, pieces, hspans, -, hmarks, hsome⟩ := marked_at_ranges f text Theme.text
  rw [hranges] at hmarked hmarks hsome
  obtain ⟨-, -, part, hpart, hfound⟩ := hmarked ⟨0, 6⟩ List.mem_cons_self
  exact ⟨⟨part, hpart, hfound⟩, pieces, hspans, hmarks, hsome (List.cons_ne_nil _ _)⟩

end LogTail.Display

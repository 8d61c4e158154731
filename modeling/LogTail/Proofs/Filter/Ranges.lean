import Mathlib.Data.List.Pairwise
import LogTail.Proofs.Text.Utf8
import LogTail.TextFilter

/-!
Where a text matches. The matches are found among the lowered characters, of which each knows the range
of the character it comes from; those ranges ascend, and so do the ranges of the matches. Matches that
share a character are joined.
-/
namespace LogTail.TextFilter

open Text (byteSize)

variable {needle cs : List Char} {offset skip : ℕ}

/-- The search by comparison at every place is the search for an infix. -/
theorem occursIn_iff_infix : occursIn needle cs = true ↔ needle <:+: cs := by
  induction cs with
  | nil =>
    rw [occursIn, List.isEmpty_iff]
    exact List.infix_nil.symm
  | cons c rest ih =>
    rw [occursIn, Bool.or_eq_true, List.isPrefixOf_iff_prefix, ih]
    exact List.infix_cons_iff.symm

/-- A character as it is looked for, with the range of the character it comes from. -/
abbrev Lowered := Char × Range

variable {fs w : List Lowered} {r : Range}

/-- Without their ranges the characters are those of the text, each lowered on its own. -/
theorem map_fst_folded (offset : ℕ) (cs : List Char) :
    (folded offset cs).map (·.1) = Text.lowerEach cs := by
  induction cs generalizing offset with
  | nil => rfl
  | cons c rest ih =>
    have hhead (q : Range) : ((Text.lowerChar c).map (·, q)).map (·.1) = Text.lowerChar c := by
      rw [List.map_map]
      exact List.map_id _
    rw [folded, List.map_append, ih, hhead]
    rfl

/-- What a lowered character comes from is a character of the text. -/
theorem source_of_mem_folded {e : Lowered} (h : e ∈ folded offset cs) :
    ∃ before c after, cs = before ++ c :: after ∧
      e.2 = ⟨offset + byteSize before, offset + byteSize (before ++ [c])⟩ := by
  induction cs generalizing offset with
  | nil => cases h
  | cons c rest ih =>
    rcases List.mem_append.mp h with hhead | hrest
    · obtain ⟨d, -, rfl⟩ := List.mem_map.mp hhead
      exact ⟨[], c, rest, rfl, by simp⟩
    · obtain ⟨before, d, after, hsplit, hrange⟩ := ih hrest
      refine ⟨c :: before, d, after, by rw [hsplit]; rfl, ?_⟩
      rw [hrange]
      simp [Nat.add_assoc]

theorem le_first_of_mem_folded {e : Lowered} (h : e ∈ folded offset cs) : offset ≤ e.2.first := by
  obtain ⟨before, c, after, -, hrange⟩ := source_of_mem_folded h
  rw [hrange]
  exact Nat.le_add_right _ _

theorem first_lt_last_of_mem_folded {e : Lowered} (h : e ∈ folded offset cs) :
    e.2.first < e.2.last := by
  obtain ⟨before, c, after, -, hrange⟩ := source_of_mem_folded h
  have hc := c.utf8Size_pos
  rw [hrange]
  simp
  omega

def Range.Le (a b : Range) : Prop :=
  a.first ≤ b.first ∧ a.last ≤ b.last

abbrev Ascend (fs : List Lowered) : Prop :=
  fs.Pairwise fun a b => a.2.Le b.2

/-- The ranges of a text ascend; characters with several lower-case letters share one. -/
theorem ascend_folded (offset : ℕ) (cs : List Char) : Ascend (folded offset cs) := by
  induction cs generalizing offset with
  | nil => exact .nil
  | cons c rest ih =>
    refine List.pairwise_append.mpr ⟨?_, ih _, ?_⟩
    · -- what comes from one character has one range
      refine List.pairwise_map.mpr (List.pairwise_of_forall ?_)
      exact fun _ _ => ⟨Nat.le_refl _, Nat.le_refl _⟩
    · intro a ha b hb
      obtain ⟨d, -, rfl⟩ := List.mem_map.mp ha
      have hfirst := le_first_of_mem_folded hb
      have hlast := first_lt_last_of_mem_folded hb
      constructor <;> dsimp only <;> omega

/-- Whether a range reaches from the first to the last of some characters in a row that read
`needle`. -/
structure Range.Reaches (r : Range) (needle : List Char) (fs w : List Lowered) : Prop where
  block : w <:+: fs
  reads : w.map (·.1) = needle
  within : ∀ e ∈ w, r.first ≤ e.2.first ∧ e.2.last ≤ r.last
  first_mem : ∃ e ∈ w, e.2.first = r.first
  last_mem : ∃ e ∈ w, e.2.last = r.last

/-- The range of an occurrence at the head. -/
theorem reaches_of_prefix {c : Char} {q : Range} {rest : List Lowered} (hneedle : needle ≠ [])
    (hfs : Ascend ((c, q) :: rest)) (h : needle <+: c :: rest.map (·.1)) :
    let w := ((c, q) :: rest).take needle.length
    Range.Reaches ⟨q.first, (w.getLast?.map (·.2.last)).getD q.last⟩ needle ((c, q) :: rest) w := by
  intro w
  have hpos : 0 < needle.length := List.length_pos_iff.mpr hneedle
  have hw : w = (c, q) :: rest.take (needle.length - 1) := List.take_cons hpos
  have hne : w ≠ [] := by
    rw [hw]
    exact List.cons_ne_nil _ _
  have hasc : Ascend w := hfs.sublist (List.take_sublist _ _)
  have hlast : (w.getLast?.map (·.2.last)).getD q.last = (w.getLast hne).2.last := by
    rw [List.getLast?_eq_some_getLast hne]
    rfl
  rw [hlast]
  have hrefl : Std.Refl fun a b : Lowered => a.2.Le b.2 := ⟨fun _ => ⟨Nat.le_refl _, Nat.le_refl _⟩⟩
  refine ⟨(List.take_prefix _ _).isInfix, ?_, ?_, ?_, ?_⟩
  · rw [List.map_take]
    exact (List.prefix_iff_eq_take.mp h).symm
  · intro e he
    have hhead : q.Le e.2 := by
      have hfirst := hasc.rel_head he
      simpa only [hw, List.head_cons] using hfirst
    exact ⟨hhead.1, (hasc.rel_getLast he).2⟩
  · exact ⟨(c, q), by rw [hw]; exact List.mem_cons_self, rfl⟩
  · exact ⟨w.getLast hne, List.getLast_mem hne, rfl⟩

/-- What is found lies in what is not skipped. -/
theorem reaches_of_mem_occurrences (hneedle : needle ≠ []) (hfs : Ascend fs)
    (h : r ∈ occurrences needle skip fs) : ∃ w, r.Reaches needle (fs.drop skip) w := by
  induction fs generalizing skip with
  | nil => cases h
  | cons e rest ih =>
    obtain ⟨c, q⟩ := e
    cases skip with
    | succ n => exact ih hfs.of_cons h
    | zero =>
      -- skipped or not, what is found farther on is found in all that is left
      have hlater {n : ℕ} (hr : r ∈ occurrences needle n rest) :
          ∃ w, r.Reaches needle ((c, q) :: rest) w := by
        obtain ⟨w, hw⟩ := ih hfs.of_cons hr
        have hrest : w <:+: rest := hw.block.trans (List.drop_suffix n rest).isInfix
        exact ⟨w, { hw with block := List.infix_cons hrest }⟩
      rw [occurrences] at h
      split at h
      case isTrue hprefix =>
        rcases List.mem_cons.mp h with rfl | hr
        · exact ⟨_, reaches_of_prefix hneedle hfs (List.isPrefixOf_iff_prefix.mp hprefix)⟩
        · exact hlater hr
      case isFalse => exact hlater h

/-- Ranges over characters that come one before the other are in the same order. -/
theorem Range.Reaches.le {a b : Range} {gs v : List Lowered} (ha : a.Reaches needle fs w)
    (hb : b.Reaches needle gs v) (h : ∀ d ∈ w, ∀ e ∈ v, d.2.Le e.2) : a.Le b := by
  obtain ⟨d, hd, hdfirst⟩ := ha.first_mem
  obtain ⟨e, he, hefirst⟩ := hb.first_mem
  obtain ⟨d', hd', hdlast⟩ := ha.last_mem
  obtain ⟨e', he', helast⟩ := hb.last_mem
  rw [Range.Le, ← hdfirst, ← hefirst, ← hdlast, ← helast]
  exact ⟨(h d hd e he).1, (h d' hd' e' he').2⟩

/-- Occurrences come out from left to right, whatever is skipped for the last one. -/
theorem pairwise_occurrences (hneedle : needle ≠ []) (hfs : Ascend fs) :
    (occurrences needle skip fs).Pairwise Range.Le := by
  induction fs generalizing skip with
  | nil => exact .nil
  | cons e rest ih =>
    obtain ⟨c, q⟩ := e
    cases skip with
    | succ n => exact ih hfs.of_cons
    | zero =>
      rw [occurrences]
      split
      case isFalse => exact ih hfs.of_cons
      case isTrue hprefix =>
        refine List.pairwise_cons.mpr ⟨?_, ih hfs.of_cons⟩
        intro b hb
        have hhead := reaches_of_prefix hneedle hfs (List.isPrefixOf_iff_prefix.mp hprefix)
        obtain ⟨v, hv⟩ := reaches_of_mem_occurrences hneedle hfs.of_cons hb
        -- the search goes on behind the characters of this occurrence
        have hpos : 0 < needle.length := List.length_pos_iff.mpr hneedle
        have hbehind : rest.drop (needle.length - 1) = ((c, q) :: rest).drop needle.length := by
          rw [← List.drop_succ_cons, Nat.sub_add_cancel hpos]
        -- so the two occurrences have no character in common
        have hsplit := hfs
        rw [Ascend, ← List.take_append_drop needle.length ((c, q) :: rest),
          List.pairwise_append] at hsplit
        refine hhead.le hv fun d hd e he => hsplit.2.2 d hd e ?_
        rw [← hbehind]
        exact hv.block.subset he

/-- Something is found where there is something to find. -/
theorem occurrences_eq_nil_iff (hneedle : needle ≠ []) :
    occurrences needle 0 fs = [] ↔ ¬ needle <:+: fs.map (·.1) := by
  induction fs with
  | nil => simpa [occurrences] using hneedle
  | cons e rest ih =>
    obtain ⟨c, q⟩ := e
    rw [occurrences, List.map_cons, List.infix_cons_iff, ← List.isPrefixOf_iff_prefix, not_or, ← ih]
    split
    case isTrue h => simp [h]
    case isFalse h => simp [h]

variable {a b : Range} {rs : List Range}

theorem pairwise_merged (h : (a :: b :: rs).Pairwise Range.Le) :
    (⟨a.first, max a.last b.last⟩ :: rs : List Range).Pairwise Range.Le := by
  obtain ⟨ha, hb, hrs⟩ : (∀ x ∈ b :: rs, a.Le x) ∧ (∀ x ∈ rs, b.Le x) ∧ rs.Pairwise Range.Le := by
    simpa only [List.pairwise_cons] using h
  refine List.pairwise_cons.mpr ⟨?_, hrs⟩
  intro x hx
  have hax := ha x (List.mem_cons_of_mem b hx)
  exact ⟨hax.1, Nat.max_le.mpr ⟨hax.2, (hb x hx).2⟩⟩

/-- A joined range begins with one of the ranges, covers it and ends with one of them. -/
theorem of_mem_joined (hrs : rs.Pairwise Range.Le) (h : r ∈ joined rs) :
    ∃ a ∈ rs, ∃ b ∈ rs, r.first = a.first ∧ a.last ≤ r.last ∧ r.last = b.last := by
  fun_induction joined rs with
  | case1 a b rest hlt ih =>
    obtain ⟨x, hx, y, hy, hfirst, hle, hlast⟩ := ih (pairwise_merged hrs) h
    have hab : a.last ≤ b.last := (List.rel_of_pairwise_cons hrs List.mem_cons_self).2
    -- the merged range stands for `a` where it begins, and for `b` where it ends
    have hx' : ∃ x ∈ a :: b :: rest, r.first = x.first ∧ x.last ≤ r.last := by
      rcases List.mem_cons.mp hx with rfl | hx
      · exact ⟨a, List.mem_cons_self, hfirst, Nat.le_trans (Nat.le_max_left _ _) hle⟩
      · exact ⟨x, by simp [hx], hfirst, hle⟩
    have hy' : ∃ y ∈ a :: b :: rest, r.last = y.last := by
      rcases List.mem_cons.mp hy with rfl | hy
      · exact ⟨b, by simp, hlast.trans (Nat.max_eq_right hab)⟩
      · exact ⟨y, by simp [hy], hlast⟩
    obtain ⟨x, hx, hfirst, hle⟩ := hx'
    obtain ⟨y, hy, hlast⟩ := hy'
    exact ⟨x, hx, y, hy, hfirst, hle, hlast⟩
  | case2 a b rest hge ih =>
    rcases List.mem_cons.mp h with rfl | h
    · exact ⟨r, List.mem_cons_self, r, List.mem_cons_self, rfl, Nat.le_refl _, rfl⟩
    · obtain ⟨x, hx, y, hy, hrange⟩ := ih hrs.of_cons h
      exact ⟨x, List.mem_cons_of_mem a hx, y, List.mem_cons_of_mem a hy, hrange⟩
  | case3 short hshort => exact ⟨r, h, r, h, rfl, Nat.le_refl _, rfl⟩

/-- After joining no range overlaps another. -/
theorem pairwise_joined (hrs : rs.Pairwise Range.Le) :
    (joined rs).Pairwise fun a b => a.last ≤ b.first := by
  fun_induction joined rs with
  | case1 a b rest hlt ih => exact ih (pairwise_merged hrs)
  | case2 a b rest hge ih =>
    refine List.pairwise_cons.mpr ⟨?_, ih hrs.of_cons⟩
    intro r hr
    obtain ⟨x, hx, -, -, hfirst, -⟩ := of_mem_joined hrs.of_cons hr
    -- what is joined later begins no earlier than `b`
    have hbx : b.first ≤ x.first := by
      rcases List.mem_cons.mp hx with rfl | hx
      · exact Nat.le_refl _
      · exact (List.rel_of_pairwise_cons hrs.of_cons hx).1
    omega
  | case3 short hshort =>
    match short, hshort with
    | [], _ => exact .nil
    | [a], _ => exact List.pairwise_singleton _ a
    | a :: b :: rest, h => exact absurd rfl (h a b rest)

theorem joined_eq_nil_iff : joined rs = [] ↔ rs = [] := by
  fun_induction joined rs with
  | case1 a b rest hlt ih => simp [ih]
  | case2 a b rest hge ih => simp
  | case3 short hshort => rfl

theorem folded_append (offset : ℕ) (cs ds : List Char) :
    folded offset (cs ++ ds) = folded offset cs ++ folded (offset + byteSize cs) ds := by
  induction cs generalizing offset with
  | nil => rfl
  | cons c rest ih =>
    rw [List.cons_append, folded, folded, ih, List.append_assoc, Text.byteSize_cons, Nat.add_assoc]

/-- No range reaches beyond the text. -/
theorem last_le_of_mem_folded {e : Lowered} (h : e ∈ folded offset cs) :
    e.2.last ≤ offset + byteSize cs := by
  obtain ⟨before, c, after, rfl, hrange⟩ := source_of_mem_folded h
  rw [hrange]
  simp

def Range.Covers (r : Range) (cs part : List Char) : Prop :=
  ∃ before after, cs = before ++ part ++ after ∧
    r.first = byteSize before ∧ r.last = byteSize (before ++ part)

theorem Range.Covers.last_le {part : List Char} (h : r.Covers cs part) :
    r.last ≤ byteSize cs := by
  obtain ⟨before, after, rfl, -, hlast⟩ := h
  rw [hlast]
  simp

/-- A range that begins where a character does and ends where one does covers a part of the text. -/
theorem exists_covers {d e : Lowered} (hd : d ∈ folded 0 cs) (he : e ∈ folded 0 cs)
    (hfirst : r.first = d.2.first) (hlast : r.last = e.2.last) (hle : r.first ≤ r.last) :
    ∃ part, r.Covers cs part := by
  obtain ⟨before, c, rest, hcs, hdrange⟩ := source_of_mem_folded hd
  obtain ⟨front, c', after, hcs', herange⟩ := source_of_mem_folded he
  simp only [hdrange, Nat.zero_add] at hfirst
  simp only [herange, Nat.zero_add] at hlast
  have hbegins : before <+: cs := by
    rw [hcs]
    exact List.prefix_append _ _
  have hends : front ++ [c'] <+: cs := by
    rw [hcs', List.append_cons front c' after]
    exact List.prefix_append _ _
  obtain ⟨part, hpart⟩ := Text.prefix_of_byteSize_le hbegins hends (by omega)
  refine ⟨part, before, after, ?_, hfirst, ?_⟩
  · rw [hpart, hcs', List.append_cons front c' after]
  · rw [hpart]
    exact hlast

/-- The characters that come from within a range come from the part that it covers. -/
theorem infix_of_covers {part : List Char} (hcovers : r.Covers cs part) (hw : w <:+: folded 0 cs)
    (hwithin : ∀ e ∈ w, r.first ≤ e.2.first ∧ e.2.last ≤ r.last) :
    w.map (·.1) <:+: Text.lowerEach part := by
  obtain ⟨before, after, rfl, hfirst, hlast⟩ := hcovers
  -- of all the characters of the text the filter leaves those that come from the part
  let inside (e : Lowered) : Bool := r.first ≤ e.2.first ∧ e.2.last ≤ r.last
  have hkept : w.filter inside = w := by
    rw [List.filter_eq_self]
    intro e he
    simpa [inside] using hwithin e he
  have hbefore : (folded 0 before).filter inside = [] := by
    rw [List.filter_eq_nil_iff]
    intro e he
    have hend := last_le_of_mem_folded he
    have hsome := first_lt_last_of_mem_folded he
    simp only [inside, decide_eq_true_eq]
    omega
  have hafter : (folded (0 + byteSize (before ++ part)) after).filter inside = [] := by
    rw [List.filter_eq_nil_iff]
    intro e he
    have hbegin := le_first_of_mem_folded he
    have hsome := first_lt_last_of_mem_folded he
    simp only [inside, decide_eq_true_eq]
    omega
  have hpart : (folded (0 + byteSize before) part).filter inside = folded (0 + byteSize before) part := by
    rw [List.filter_eq_self]
    intro e he
    have hbegin := le_first_of_mem_folded he
    have hend := last_le_of_mem_folded he
    rw [Text.byteSize_append] at hlast
    simp only [inside, decide_eq_true_eq]
    omega
  -- filtering a part of a row keeps it a part
  have hfiltered := hw.filter inside
  rw [hkept, folded_append, folded_append, List.filter_append, List.filter_append, hbefore, hpart,
    hafter, List.nil_append, List.append_nil] at hfiltered
  have hread := hfiltered.map (·.1)
  rwa [map_fst_folded] at hread

variable {f : TextFilter} {text : String}

theorem isEmpty_eq_false_iff : f.isEmpty = false ↔ f.needle ≠ [] := by
  rw [isEmpty, List.isEmpty_eq_false_iff]

theorem ranges_of_needle (h : f.needle ≠ []) :
    f.ranges text = joined (occurrences f.needle 0 (folded 0 text.toList)) := by
  rw [ranges, isEmpty_eq_false_iff.mpr h]
  rfl

/-- A text has ranges if the filter is found in it, each character lowered on its own. -/
theorem ranges_eq_nil_iff :
    f.ranges text = [] ↔ f.needle = [] ∨ ¬ f.needle <:+: Text.lowerEach text.toList := by
  by_cases hneedle : f.needle = []
  · have hempty : f.isEmpty = true := List.isEmpty_iff.mpr hneedle
    simp [ranges, hempty, hneedle]
  · rw [ranges_of_needle hneedle, joined_eq_nil_iff, occurrences_eq_nil_iff hneedle, map_fst_folded]
    simp [hneedle]

/-- The ranges of a text are disjoint and ascend. -/
theorem pairwise_ranges (f : TextFilter) (text : String) :
    (f.ranges text).Pairwise fun a b => a.last ≤ b.first := by
  by_cases hneedle : f.needle = []
  · rw [ranges_eq_nil_iff.mpr (.inl hneedle)]
    exact .nil
  · rw [ranges_of_needle hneedle]
    exact pairwise_joined (pairwise_occurrences hneedle (ascend_folded 0 text.toList))

/-- A range covers whole characters, among which the filter is found. -/
theorem covers_of_mem_ranges (h : r ∈ f.ranges text) :
    ∃ part, r.Covers text.toList part ∧ f.needle <:+: Text.lowerEach part ∧ r.first < r.last := by
  have hneedle : f.needle ≠ [] := by
    intro hempty
    rw [ranges_eq_nil_iff.mpr (.inl hempty)] at h
    cases h
  rw [ranges_of_needle hneedle] at h
  have hasc := ascend_folded 0 text.toList
  obtain ⟨a, ha, b, hb, hfirst, hle, hlast⟩ := of_mem_joined (pairwise_occurrences hneedle hasc) h
  obtain ⟨w, hw⟩ := reaches_of_mem_occurrences hneedle hasc ha
  obtain ⟨v, hv⟩ := reaches_of_mem_occurrences hneedle hasc hb
  obtain ⟨d, hd, hdfirst⟩ := hw.first_mem
  obtain ⟨e, he, helast⟩ := hv.last_mem
  have hd' := hw.block.subset hd
  have hlt : r.first < r.last := by
    have hsome := first_lt_last_of_mem_folded hd'
    have hend := (hw.within d hd).2
    omega
  obtain ⟨part, hpart⟩ := exists_covers hd' (hv.block.subset he) (hfirst.trans hdfirst.symm)
    (hlast.trans helast.symm) hlt.le
  refine ⟨part, hpart, ?_, hlt⟩
  rw [← hw.reads]
  refine infix_of_covers hpart hw.block fun e he => ?_
  have hwithin := hw.within e he
  omega

end LogTail.TextFilter

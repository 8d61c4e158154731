import LogTail.Display.Shorten
import LogTail.Proofs.Text.Width

/-!
Shortened texts. A text is cut where the characters, each on its own, would fill the columns; whether the
result fits depends on the columns that the text before the cut has as a whole. These may be more where
there are control characters, such as tabs and line feeds, or signs before an emoji selector.
-/
namespace LogTail.Text

/-- Without control characters and without emoji made wider by a selector, no character has more
columns in a text than on its own. -/
theorem raises_eq_zero {cs : List Char} (hcontrol : ∀ c ∈ cs, isControl c = false)
    (hselected : '\uFE0F' ∈ cs → ∀ c ∈ cs, presentationBases.contains c = true → 2 ≤ ownWidth c) :
    raises cs = 0 := by
  induction cs with
  | nil => rfl
  | cons c rest ih =>
    have hrest : raises rest = 0 := ih (fun d hd => hcontrol d (List.mem_cons_of_mem c hd))
      fun hmem d hd => hselected (List.mem_cons_of_mem c hmem) d (List.mem_cons_of_mem c hd)
    rw [raises, hrest, Nat.add_zero, raise, hcontrol c List.mem_cons_self, if_neg Bool.false_ne_true]
    split
    · next h =>
      obtain ⟨hbase, hhead⟩ := Bool.and_eq_true_iff.mp h
      have hmem : '\uFE0F' ∈ rest := List.mem_of_mem_head? (beq_iff_eq.mp hhead)
      have hwide := hselected (List.mem_cons_of_mem c hmem) c List.mem_cons_self hbase
      omega
    · rfl

/-- A control character other than a line feed or a carriage return counts as one column, whatever
follows it. -/
theorem advance_of_control {c : Char} (h : isControl c = true) (hfeed : c ≠ '\n') (hreturn : c ≠ '\r')
    (t : Tail) : advance c t = (1, .plain) := by
  have hlow : c.toNat ≤ 0xA0 := by
    have hc := isControl_iff.mp h
    omega
  have htext (u : Tail) : advanceText c u = (1, .plain) := by
    simp [advanceText, hlow, hfeed, hreturn]
  simp [advance, presentationBases_of_control h, htext]

/-- A control character twice has two columns, though it has none alone. -/
theorem width_control_twice {c : Char} (h : isControl c = true) : width [c, c] = 2 := by
  by_cases hfeed : c = '\n'
  · subst hfeed; decide +kernel
  by_cases hreturn : c = '\r'
  · subst hreturn; decide +kernel
  simp [width, advance_of_control h hfeed hreturn]

/-- A sign before an emoji selector has two columns every time. -/
theorem width_selected_twice {c : Char} (h : presentationBases.contains c = true) :
    width [c, '\uFE0F', c, '\uFE0F'] = 4 := by
  have hselector : advance '\uFE0F' .plain = (0, Tail.plain.chooseEmoji) := by decide +kernel
  have hselector' : advance '\uFE0F' (.ofKind .emoji) = (0, Tail.plain.chooseEmoji) := by
    decide +kernel
  have hsign : advance c Tail.plain.chooseEmoji = (2, .ofKind .emoji) := by
    simp [advance, h, Tail.chooseEmoji, Tail.plain, Tail.ofKind, TailKind.isLigature]
  simp [width, hselector, hselector', hsign]

end LogTail.Text

namespace LogTail.Display

open LogTail.Text

theorem fitting_cons (room : ℕ) (c : Char) (rest : List Char) :
    fitting room (c :: rest) =
      if room < ownWidth c then [] else c :: fitting (room - ownWidth c) rest :=
  rfl

/-- What fits is a beginning of the text. -/
theorem fitting_begins (room : ℕ) (cs : List Char) : fitting room cs <+: cs := by
  induction cs generalizing room with
  | nil => exact List.nil_prefix
  | cons c rest ih =>
    rw [fitting_cons]
    split
    · exact List.nil_prefix
    · exact List.cons_prefix_cons.mpr ⟨rfl, ih _⟩

/-- What is kept of a text is the longest beginning whose characters fit, each on its own. -/
theorem prefix_fitting_iff {room : ℕ} {p cs : List Char} (h : p <+: cs) :
    p <+: fitting room cs ↔ ownWidths p ≤ room := by
  induction cs generalizing p room with
  | nil => simp [List.prefix_nil.mp h, ownWidths]
  | cons c rest ih =>
    cases p with
    | nil => simp [ownWidths]
    | cons d p =>
      obtain ⟨rfl, hp⟩ := List.cons_prefix_cons.mp h
      rw [fitting_cons, ownWidths]
      by_cases hroom : room < ownWidth d
      · rw [if_pos hroom, List.prefix_nil]
        exact iff_of_false (List.cons_ne_nil d p) (by omega)
      · rw [if_neg hroom, List.cons_prefix_cons, ih hp]
        simp only [true_and]
        omega

theorem ownWidths_fitting (room : ℕ) (cs : List Char) : ownWidths (fitting room cs) ≤ room :=
  (prefix_fitting_iff (fitting_begins room cs)).mp List.prefix_rfl

theorem fitting_of_le {room : ℕ} {cs : List Char} (h : ownWidths cs ≤ room) :
    fitting room cs = cs :=
  (fitting_begins room cs).eq_of_length_le
    ((prefix_fitting_iff List.prefix_rfl).mpr h).length_le

theorem width_cut (cs : List Char) : width (cs ++ ['…']) = width cs + 1 := by
  have hplain : (scan ['…']).2 = .plain := by decide +kernel
  have hone : width ['…'] = 1 := by decide +kernel
  rw [width_concat hplain, hone]

/-- What a text comes to in `w` columns: it fits them; it is the text itself if that fits; and otherwise, if
there is any room, a proper beginning of the text and an ellipsis. -/
structure IsShortened (cs : List Char) (w : ℕ) (t : List Char) : Prop where
  fits : width t ≤ w
  whole : width cs ≤ w → t = cs
  cut : w < width cs → 1 ≤ w → ∃ p, p <+: cs ∧ p ≠ cs ∧ t = p ++ ['…']

/-- The result is as it should be if what is kept leaves a column for the ellipsis. -/
theorem isShortened_iff (cs : List Char) (w : ℕ) :
    IsShortened cs w (shorten cs w) ↔
      (1 ≤ w → w < width cs → width (fitting (w - 1) cs) < w) := by
  by_cases hfits : width cs ≤ w
  · have hshort : shorten cs w = cs := if_pos hfits
    rw [hshort]
    exact iff_of_true ⟨hfits, fun _ => rfl, fun h => absurd h (by omega)⟩ (fun _ h => absurd h (by omega))
  by_cases hw : w = 0
  · have hshort : shorten cs w = [] := by rw [shorten, if_neg hfits, if_pos hw]
    rw [hshort]
    exact iff_of_true ⟨Nat.zero_le _, fun h => absurd h hfits, fun _ h => absurd h (by omega)⟩
      (fun h => absurd h (by omega))
  · have hshort : shorten cs w = fitting (w - 1) cs ++ ['…'] := by
      rw [shorten, if_neg hfits, if_neg hw]
    rw [hshort]
    constructor
    · intro h _ _
      have hwidth := h.fits
      rw [width_cut] at hwidth
      omega
    · intro h
      have hkept : width (fitting (w - 1) cs) < w := h (by omega) (by omega)
      refine ⟨by rw [width_cut]; omega, fun h => absurd h hfits, fun _ _ => ?_⟩
      refine ⟨_, fitting_begins _ cs, ?_, rfl⟩
      intro heq
      rw [heq] at hkept
      omega

/-- A text is shortened as it should be where the beginning that is kept, the longest whose characters fit
each on its own, leaves a column for the ellipsis. That is so for all texts in some characters if and only
if there is no control character among these, nor an emoji selector together with a sign that has fewer
than two columns without it. -/
theorem shortened_iff (cs : List Char) (w : ℕ) (P : Char → Prop) :
    (∀ p, p <+: cs → (p <+: fitting w cs ↔ ownWidths p ≤ w)) ∧
    (IsShortened cs w (shorten cs w) ↔
      (1 ≤ w → w < width cs → width (fitting (w - 1) cs) < w)) ∧
    ((∀ ds, (∀ c ∈ ds, P c) → ∀ v, IsShortened ds v (shorten ds v)) ↔
      (∀ c, P c → isControl c = false) ∧
      (P '\uFE0F' → ∀ c, P c → presentationBases.contains c = true → 2 ≤ ownWidth c)) := by
  refine ⟨fun p hp => prefix_fitting_iff hp, isShortened_iff cs w, ?_⟩
  constructor
  · intro h
    -- a text that has more columns than its characters is kept whole, and then it is too wide
    have hall (ds : List Char) (hds : ∀ c ∈ ds, P c) {v : ℕ} (hv : ownWidths ds + 1 ≤ v) :
        width ds ≤ v := by
      by_contra hwide
      have hkept := (isShortened_iff ds v).mp (h ds hds v) (by omega) (by omega)
      rw [fitting_of_le (by omega)] at hkept
      omega
    constructor
    · intro c hc
      by_contra hcontrol
      have hcontrol : isControl c = true := Bool.not_eq_false _ ▸ hcontrol
      have hwidth := hall [c, c] (by simpa using hc) (v := 1)
        (by simp [ownWidths, ownWidth_of_control hcontrol])
      rw [width_control_twice hcontrol] at hwidth
      omega
    · intro hselector c hc hbase
      by_contra hnarrow
      have hzero : ownWidth '\uFE0F' = 0 := by decide +kernel
      have hwidth := hall [c, '\uFE0F', c, '\uFE0F'] (by simp [hc, hselector]) (v := 3)
        (by simp only [ownWidths, hzero]; omega)
      rw [width_selected_twice hbase] at hwidth
      omega
  · rintro ⟨hcontrol, hselected⟩ ds hds v
    rw [isShortened_iff]
    intro hv _
    have hkept (c : Char) (hc : c ∈ fitting (v - 1) ds) : P c :=
      hds c ((fitting_begins _ ds).subset hc)
    have hraises : raises (fitting (v - 1) ds) = 0 := raises_eq_zero
      (fun c hc => hcontrol c (hkept c hc))
      (fun hmem c hc => hselected (hkept _ hmem) c (hkept c hc))
    have hown := ownWidths_fitting (v - 1) ds
    have hwidth := width_le (fitting (v - 1) ds)
    omega

theorem shortened_iff_wide :
    IsShortened ['日', '本', '語'] 4 (shorten ['日', '本', '語'] 4) ∧
      shorten ['日', '本', '語'] 4 = ['日', '…'] :=
  have hcontrol : ∀ c ∈ ['日', '本', '語'], isControl c = false := by simp [isControl]
  have hselector : '\uFE0F' ∉ ['日', '本', '語'] := by decide
  ⟨(shortened_iff [] 0 (· ∈ ['日', '本', '語'])).2.2.mpr ⟨hcontrol, fun h => absurd h hselector⟩
    ['日', '本', '語'] (fun _ h => h) 4, by decide +kernel⟩

/-- Two tabs fill two columns, and one column is asked for; both are kept, and the ellipsis comes after
them. -/
theorem tabs_overrun :
    shorten ['\t', '\t'] 1 = ['\t', '\t', '…'] ∧ width (shorten ['\t', '\t'] 1) = 3 ∧
      ¬ IsShortened ['\t', '\t'] 1 (shorten ['\t', '\t'] 1) := by
  have hshort : shorten ['\t', '\t'] 1 = ['\t', '\t', '…'] := by decide +kernel
  have hwidth : width (shorten ['\t', '\t'] 1) = 3 := by decide +kernel
  refine ⟨hshort, hwidth, fun h => ?_⟩
  have hfits := h.fits
  omega

end LogTail.Display

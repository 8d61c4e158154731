import Mathlib.Data.Int.Notation
import Mathlib.Data.Nat.Notation
import Mathlib.Tactic.ByContra
import LogTail.Text.Width

/-!
The columns of a text against those of its characters. A text is measured from its end, and what a
character adds there depends on the tail behind it. Sequences that merge make a text narrower than its
characters are apart; it gets wider only by control characters, which count one column in a text and none
alone, and by emoji selectors, which give two columns to a sign that may have one alone.
-/
namespace LogTail.Text

def ownWidth (c : Char) : ℕ :=
  (charWidth c).getD 0

def ownWidths : List Char → ℕ
  | [] => 0
  | c :: rest => ownWidth c + ownWidths rest

/-- The columns that a character may have in a text beyond its own: a control character counts as one, and
a sign before an emoji selector as two. -/
def raise (c : Char) (rest : List Char) : ℕ :=
  if isControl c then 1
  else if presentationBases.contains c && rest.head? == some '\uFE0F' then 2 - ownWidth c
  else 0

def raises : List Char → ℕ
  | [] => 0
  | c :: rest => raise c rest + raises rest

theorem ownWidth_of_control {c : Char} (h : isControl c = true) : ownWidth c = 0 := by
  simp [ownWidth, charWidth, h]

theorem ownWidth_of_not_control {c : Char} (h : isControl c = false) :
    ownWidth c = (glyph c).1 := by
  simp [ownWidth, charWidth, h]

theorem isControl_iff {c : Char} :
    isControl c = true ↔ c.toNat < 0x20 ∨ 0x7F ≤ c.toNat ∧ c.toNat < 0xA0 := by
  simp [isControl]

theorem covers_of_lt {first last n : ℕ} {rest : List (ℕ × ℕ)} (h : n < first) :
    CharSet.covers ((first, last) :: rest) n = false :=
  if_pos h

theorem covers_of_gt {first last n : ℕ} {rest : List (ℕ × ℕ)} (hfirst : first ≤ n)
    (hlast : last < n) : CharSet.covers ((first, last) :: rest) n = CharSet.covers rest n := by
  rw [CharSet.covers, if_neg (by omega), if_neg (by omega)]

theorem presentationBases_of_control {c : Char} (h : isControl c = true) :
    presentationBases.contains c = false := by
  rcases isControl_iff.mp h with hlow | ⟨hdelete, hhigh⟩
  · exact covers_of_lt (by omega)
  · have hgap (rest : List (ℕ × ℕ)) : CharSet.covers
        ((0x23, 0x23) :: (0x2A, 0x2A) :: (0x30, 0x39) :: (0xA9, 0xA9) :: rest) c.toNat = false := by
      rw [covers_of_gt (by omega) (by omega), covers_of_gt (by omega) (by omega),
        covers_of_gt (by omega) (by omega), covers_of_lt (by omega)]
    exact hgap _

theorem le_of_isZeroWidth {c : Char} (h : isZeroWidth c = true) : 0xAD ≤ c.toNat := by
  by_contra hlt
  have hextender : graphemeExtenders.contains c = false := covers_of_lt (by omega)
  have hignorable : defaultIgnorable.contains c = false := covers_of_lt (by omega)
  simp only [isZeroWidth, hextender, hignorable, between, Bool.and_eq_true, Bool.or_eq_true,
    decide_eq_true_eq, beq_iff_eq, Bool.false_eq_true, false_or] at h
  omega

namespace TailKind

/-- The columns that a later merge may take back from a tail. -/
def lent : TailKind → ℤ
  | khmerLetter | berberPair | joinedFlagLetter | joinedFlagOdd => 1
  | _ => 0

/-- The columns that a later merge may put back before a tail. -/
def saved : TailKind → ℤ
  | joinedFlagEven => 2
  | _ => 0

theorem plain_lent : plain.lent = 0 :=
  rfl

theorem plain_saved : plain.saved = 0 :=
  rfl

theorem lent_nonneg (k : TailKind) : 0 ≤ k.lent := by
  unfold lent
  split <;> decide

theorem saved_nonneg (k : TailKind) : 0 ≤ k.saved := by
  unfold saved
  split <;> decide

theorem lent_join (k : TailKind) : k.join.lent = k.lent := by
  cases k <;> rfl

theorem saved_join (k : TailKind) : k.join.saved = k.saved := by
  cases k <;> rfl

end TailKind

/-- A character `c` that adds `r.1` columns before a tail of kind `k` takes no more back than was lent to
the tail, and adds no more than `w` and what the tail saved. Only an emoji selector leaves one. -/
structure Added (c : Char) (w : ℕ) (k : TailKind) (r : ℤ × Tail) : Prop where
  lent : r.2.kind.lent ≤ k.lent + r.1
  saved : r.1 + r.2.kind.saved ≤ k.saved + w
  selector : r.2.asEmoji = true → c = '\uFE0F'

namespace Added

variable {c : Char} {w : ℕ} {k : TailKind} {r : ℤ × Tail}

theorem mono (h : Added c w k r) {v : ℕ} (hv : w ≤ v) : Added c v k r :=
  ⟨h.lent, have := h.saved; by omega, h.selector⟩

theorem of_plain (h : Added c w .plain r) (k : TailKind) : Added c w k r := by
  have hlent := h.lent
  have hsaved := h.saved
  rw [TailKind.plain_lent] at hlent
  rw [TailKind.plain_saved] at hsaved
  have hk := k.lent_nonneg
  have hk' := k.saved_nonneg
  exact ⟨by omega, by omega, h.selector⟩

/-- A tail that is forgotten leaves less room. -/
theorem of_forgotten {j : TailKind} (h : Added c w j r) (hj : j = k ∨ j = .plain) :
    Added c w k r := by
  rcases hj with rfl | rfl
  · exact h
  · exact h.of_plain k

theorem of_sign {j : TailKind} (hlent : j.lent ≤ w) (hsaved : j.saved = 0)
    (k : TailKind) : Added c w k (w, .ofKind j) := by
  refine of_plain ⟨?_, ?_, fun h => absurd h Bool.false_ne_true⟩ k
  · simpa [Tail.ofKind, TailKind.plain_lent] using hlent
  · simp [Tail.ofKind, TailKind.plain_saved, hsaved]

theorem of_nothing {t : Tail} (hlent : t.kind.lent = k.lent) (hsaved : t.kind.saved = k.saved)
    (hselector : t.asEmoji = true → c = '\uFE0F') : Added c w k (0, t) :=
  ⟨by simp [hlent], by simp only [hsaved]; omega, hselector⟩

/-- A character that adds nothing may keep the kind of the tail or forget it. -/
theorem of_kept {t : Tail} (h : t.kind = k ∨ t.kind = .plain)
    (hselector : t.asEmoji = true → c = '\uFE0F') : Added c w k (0, t) :=
  (of_nothing (k := t.kind) rfl rfl hselector).of_forgotten h

end Added

inductive Alone (c : Char) : ℕ × Tail → Prop
  | emojiSelector (h : c = '\uFE0F') : Alone c (0, Tail.plain.chooseEmoji)
  | textSelector (h : c = '\uFE0E') : Alone c (0, Tail.plain.chooseText)
  | zeroWidth (h : isZeroWidth c = true) (hemoji : ¬ emojiByDefault.contains c = true)
    (hflag : ¬ isFlagLetter c = true) : Alone c (0, .plain)
  | sign (w : ℕ) (k : TailKind) (hw : 1 ≤ w) (hlent : k.lent ≤ 1) (hsaved : k.saved = 0)
    (hflag : isFlagLetter c = true → w = 1) : Alone c (w, .ofKind k)

/-- The cases of a character, in the order in which they are told apart. -/
theorem alone_glyph (c : Char) : Alone c (glyph c) := by
  have narrow (k : TailKind) (hlent : k.lent ≤ 1) (hsaved : k.saved = 0) :
      Alone c (1, .ofKind k) := .sign 1 k (Nat.le_refl 1) hlent hsaved (fun _ => rfl)
  have broad {w : ℕ} (k : TailKind) (hw : 1 ≤ w) (hlent : k.lent ≤ 1) (hsaved : k.saved = 0)
      (hflag : ¬ isFlagLetter c = true) : Alone c (w, .ofKind k) :=
    .sign w k hw hlent hsaved (fun h => absurd h hflag)
  unfold glyph
  -- flag letters come before all signs that may be wide, so these are none
  refine iteInduction (fun _ => narrow _ (by decide) rfl) (fun _ => ?_)
  refine iteInduction (fun h => .emojiSelector (Char.toNat_inj.mp (beq_iff_eq.mp h))) (fun _ => ?_)
  refine iteInduction (fun h => .textSelector (Char.toNat_inj.mp (beq_iff_eq.mp h))) (fun _ => ?_)
  iterate 4 refine iteInduction (fun _ => narrow _ (by decide) rfl) (fun _ => ?_)
  refine iteInduction (fun _ => narrow _ (by decide) rfl) (fun hflag => ?_)
  refine iteInduction (fun _ => broad _ (by decide) (by decide) rfl hflag) (fun _ => ?_)
  iterate 4 refine iteInduction (fun _ => narrow _ (by decide) rfl) (fun _ => ?_)
  refine iteInduction (fun _ => broad .plain (by decide) (by decide) rfl hflag) (fun _ => ?_)
  refine iteInduction (fun _ => broad _ (by decide) (by decide) rfl hflag) (fun hemoji => ?_)
  refine iteInduction (fun h => .zeroWidth h hemoji hflag) (fun _ => ?_)
  refine iteInduction (fun _ => broad .plain (by decide) (by decide) rfl hflag) (fun _ => ?_)
  exact narrow .plain (by decide) rfl

theorem glyph_pos {c : Char} (h : isZeroWidth c = false ∨ emojiByDefault.contains c = true) :
    1 ≤ (glyph c).1 := by
  have halone := alone_glyph c
  generalize glyph c = r at halone
  cases halone with
  | emojiSelector hc => rw [hc] at h; exact absurd h (by decide +kernel)
  | textSelector hc => rw [hc] at h; exact absurd h (by decide +kernel)
  | zeroWidth hzero hemoji => simp [hzero, hemoji] at h
  | sign w k hw => exact hw

/-- A character that merges with nothing adds its own columns. -/
theorem glyph_added (c : Char) (k : TailKind) : Added c (glyph c).1 k ((glyph c).1, (glyph c).2) := by
  have halone := alone_glyph c
  generalize glyph c = r at halone
  cases halone with
  | emojiSelector hc => exact .of_kept (.inr rfl) (fun _ => hc)
  | textSelector => exact .of_kept (.inr rfl) (fun h => absurd h (by decide))
  | zeroWidth => exact .of_kept (.inr rfl) (fun h => absurd h (by decide))
  | sign w j hw hlent hsaved => exact .of_sign (by omega) hsaved k

theorem glyph_of_flagLetter {c : Char} (h : isFlagLetter c = true) : (glyph c).1 = 1 := by
  have halone := alone_glyph c
  generalize glyph c = r at halone
  cases halone with
  | emojiSelector hc => rw [hc] at h; exact absurd h (by decide)
  | textSelector hc => rw [hc] at h; exact absurd h (by decide)
  | zeroWidth _ _ hflag => exact absurd h hflag
  | sign w k hw hlent hsaved hflag => exact hflag h

theorem some_of_ite {α : Type} {p : Prop} [Decidable p] {x r : α} {rest : Option α}
    (h : (if p then some x else rest) = some r) : p ∧ x = r ∨ rest = some r := by
  split at h
  case isTrue hp => exact .inl ⟨hp, Option.some.inj h⟩
  case isFalse => exact .inr h

/-- No merge adds more than the character has alone and the tail has saved, nor takes more than was lent
to the tail. -/
theorem merge_added {c : Char} {k : TailKind} {r : ℤ × Tail} (h : merge c k = some r) :
    Added c (glyph c).1 k r := by
  -- the merges that lend or save go by characters whose own width is known
  have hflag : isFlagLetter c = true → (glyph c).1 = 1 := glyph_of_flagLetter
  have hpair : (c.toNat == 0x2D7F) = true → (glyph c).1 = 1 := by
    intro hc
    rw [show c = '\u2D7F' from Char.toNat_inj.mp (beq_iff_eq.mp hc)]
    decide +kernel
  have hvowel : (c.toNat == 0x16D68) = true → (glyph c).1 = 1 := by
    intro hc
    rw [show c = Char.ofNat 0x16D68 from Char.toNat_inj.mp (beq_iff_eq.mp hc)]
    decide +kernel
  unfold merge at h
  dsimp only at h
  split at h
  all_goals repeat' (rcases some_of_ite h with ⟨hp, rfl⟩ | h)
  -- the last branch of every kind merges with nothing
  all_goals try contradiction
  all_goals refine ⟨?_, ?_, fun h => absurd h Bool.false_ne_true⟩
  all_goals simp only [TailKind.lent, TailKind.saved, Tail.ofKind, Tail.plain]
  all_goals first
    | omega
    | have hw := hflag hp; omega
    | have hw := hpair hp; omega
    | have hw := hvowel hp; omega

namespace Tail

theorem chooseEmoji_kind (t : Tail) : t.chooseEmoji.kind = t.kind ∨ t.chooseEmoji.kind = .plain := by
  unfold chooseEmoji
  split
  · exact .inl rfl
  · split
    · exact .inl rfl
    · exact .inl rfl
    · exact .inr rfl

theorem chooseText_kind (t : Tail) : t.chooseText.kind = t.kind ∨ t.chooseText.kind = .plain := by
  unfold chooseText
  split
  · exact .inl rfl
  · exact .inr rfl

theorem dropEmoji_kind (t : Tail) : t.dropEmoji.kind = t.kind ∨ t.dropEmoji.kind = .plain := by
  unfold dropEmoji
  split
  · exact .inl rfl
  · exact .inr rfl

theorem dropText_kind (t : Tail) : t.dropText.kind = t.kind ∨ t.dropText.kind = .plain := by
  unfold dropText
  split
  · exact .inl rfl
  · exact .inr rfl

theorem dropEmoji_asEmoji (t : Tail) : t.dropEmoji.asEmoji = false := by
  unfold dropEmoji
  split <;> rfl

theorem chooseText_asEmoji {t : Tail} (h : t.asEmoji = false) : t.chooseText.asEmoji = false := by
  unfold chooseText
  split
  · exact h
  · rfl

theorem dropText_asEmoji {t : Tail} (h : t.asEmoji = false) : t.dropText.asEmoji = false := by
  unfold dropText
  split
  · exact h
  · rfl

end Tail

/-- The cases of a character before a tail without an emoji selector, in the order in which they are told
apart. -/
theorem advanceText_added {c : Char} {t : Tail} {w : ℕ} (ht : t.asEmoji = false)
    (hlow : c.toNat ≤ 0xA0 → 1 ≤ w) (hhigh : ¬ c.toNat ≤ 0xA0 → (glyph c).1 ≤ w) :
    Added c w t.kind (advanceText c t) := by
  have none_left {u : Tail} (hu : u.asEmoji = false) : u.asEmoji = true → c = '\uFE0F' :=
    fun h => absurd (hu.symm.trans h) Bool.false_ne_true
  have narrow (j : TailKind) (hlent : j.lent ≤ 1) (hsaved : j.saved = 0) (hw : 1 ≤ w) :
      Added c w t.kind (1, .ofKind j) := (Added.of_sign hlent hsaved _).mono hw
  unfold advanceText
  refine iteInduction (fun hc => ?_) (fun hc => ?_)
  · refine iteInduction (fun _ => narrow _ (by decide) rfl (hlow hc)) (fun _ => ?_)
    refine iteInduction (fun _ => .of_kept (.inr rfl) (none_left rfl)) (fun _ => ?_)
    exact narrow .plain (by decide) rfl (hlow hc)
  have hglyph : (glyph c).1 ≤ w := hhigh hc
  have apart (k : TailKind) : Added c w k ((glyph c).1, (glyph c).2) := (glyph_added c k).mono hglyph
  refine iteInduction (fun _ => apart t.kind) (fun _ => ?_)
  refine iteInduction (fun hc => ?_) (fun _ => ?_)
  · exact .of_kept t.chooseEmoji_kind (fun _ => Char.toNat_inj.mp (beq_iff_eq.mp hc))
  refine iteInduction (fun _ => ?_) (fun _ => ?_)
  · exact .of_kept t.chooseText_kind (none_left (Tail.chooseText_asEmoji ht))
  refine iteInduction (fun hc => ?_) (fun _ => ?_)
  · simp only [Bool.and_eq_true] at hc
    exact narrow .plain (by decide) rfl (Nat.le_trans (glyph_pos (.inr hc.1.1.2)) hglyph)
  -- from here on the text selector is dropped
  have hkind : (if t.asText then t.dropText else t).kind = t.kind ∨
      (if t.asText then t.dropText else t).kind = .plain := by
    split
    · exact t.dropText_kind
    · exact .inl rfl
  have hselector : (if t.asText then t.dropText else t).asEmoji = false := by
    split
    · exact Tail.dropText_asEmoji ht
    · exact ht
  generalize (if t.asText then t.dropText else t) = u at hkind hselector
  refine Added.of_forgotten (j := u.kind) ?_ hkind
  refine iteInduction (fun _ => ?_) (fun _ => ?_)
  · exact .of_nothing u.kind.lent_join u.kind.saved_join (none_left hselector)
  refine iteInduction (fun _ => .of_kept (.inl rfl) (none_left hselector)) (fun _ => ?_)
  cases hmerge : merge c u.kind with
  | none => exact apart u.kind
  | some r => exact (merge_added hmerge).mono hglyph

/-- What a character adds before the tail of a text. -/
theorem advance_added {c : Char} {t : Tail} {rest : List Char}
    (ht : t.asEmoji = true → rest.head? = some '\uFE0F') :
    Added c (ownWidth c + raise c rest) t.kind (advance c t) := by
  -- up to the no-break space every character fills a column or is a control
  have hlow : c.toNat ≤ 0xA0 → 1 ≤ ownWidth c + raise c rest := by
    intro hc
    cases hcontrol : isControl c with
    | true => simp [raise, hcontrol]
    | false =>
      have hzero : isZeroWidth c = false := by
        by_contra h
        have hle := le_of_isZeroWidth (Bool.not_eq_false _ ▸ h)
        omega
      rw [ownWidth_of_not_control hcontrol]
      exact Nat.le_add_right_of_le (glyph_pos (.inl hzero))
  have hhigh : ¬ c.toNat ≤ 0xA0 → (glyph c).1 ≤ ownWidth c + raise c rest := by
    intro hc
    have hcontrol : isControl c = false := by
      rw [Bool.eq_false_iff, ne_eq, isControl_iff]
      omega
    rw [ownWidth_of_not_control hcontrol]
    exact Nat.le_add_right _ _
  unfold advance
  refine iteInduction (fun hselected => ?_) (fun hselected => ?_)
  · refine iteInduction (fun hbase => ?_) (fun _ => ?_)
    · -- before an emoji selector a sign gets two columns, and what is raised makes up for them
      have hcontrol : ¬ isControl c = true := fun h =>
        absurd (hbase.symm.trans (presentationBases_of_control h)) (by decide)
      have hraise : raise c rest = 2 - ownWidth c := by
        simp [raise, hcontrol, hbase, ht hselected]
      have hwide : 2 ≤ ownWidth c + raise c rest := by omega
      have hemoji : (Tail.ofKind .emoji).asEmoji = true → c = '\uFE0F' :=
        fun h => absurd h Bool.false_ne_true
      refine iteInduction (motive := fun w => Added c _ _ (w, _)) (fun _ => ?_) (fun _ => ?_)
      · exact (Added.of_nothing (k := .plain) rfl rfl hemoji).of_plain t.kind
      · exact (Added.of_sign (w := 2) (by decide) rfl t.kind).mono hwide
    · exact (advanceText_added t.dropEmoji_asEmoji hlow hhigh).of_forgotten t.dropEmoji_kind
  · exact advanceText_added (Bool.eq_false_iff.mpr hselected) hlow hhigh

def scan (cs : List Char) : ℤ × Tail :=
  cs.foldr (fun c (sum, tail) => (sum + (advance c tail).1, (advance c tail).2)) (0, .plain)

theorem width_eq_scan (cs : List Char) : width cs = (scan cs).1.toNat :=
  rfl

theorem scan_cons (c : Char) (cs : List Char) :
    scan (c :: cs) = ((scan cs).1 + (advance c (scan cs).2).1, (advance c (scan cs).2).2) :=
  rfl

/-- What stands before a plain tail is measured as if nothing followed. -/
theorem scan_append_of_plain {ds : List Char} (h : (scan ds).2 = .plain) (cs : List Char) :
    scan (cs ++ ds) = ((scan ds).1 + (scan cs).1, (scan cs).2) := by
  induction cs with
  | nil => rw [List.nil_append, show scan [] = (0, .plain) from rfl, ← h, Int.add_zero]
  | cons c rest ih => rw [List.cons_append, scan_cons, ih, scan_cons, Int.add_assoc]

theorem asEmoji_scan {cs : List Char} (h : (scan cs).2.asEmoji = true) :
    cs.head? = some '\uFE0F' := by
  induction cs with
  | nil => exact absurd h Bool.false_ne_true
  | cons c rest ih => rw [List.head?_cons, (advance_added ih).selector h]

/-- A text has no fewer columns than are lent to its tail, and no more than its characters and what raises
them. -/
theorem scan_bounds (cs : List Char) :
    (scan cs).2.kind.lent ≤ (scan cs).1 ∧
      (scan cs).1 + (scan cs).2.kind.saved ≤ ownWidths cs + raises cs := by
  induction cs with
  | nil => decide
  | cons c rest ih =>
    -- what is lent to the tail and what it saved carry the induction from the end of the text
    obtain ⟨hlent, hsaved⟩ := ih
    have hadded : Added c (ownWidth c + raise c rest) (scan rest).2.kind (advance c (scan rest).2) :=
      advance_added asEmoji_scan
    have hlent' := hadded.lent
    have hsaved' := hadded.saved
    rw [scan_cons, ownWidths, raises]
    push_cast at hsaved' ⊢
    exact ⟨by omega, by omega⟩

theorem scan_nonneg (cs : List Char) : 0 ≤ (scan cs).1 :=
  Int.le_trans (TailKind.lent_nonneg _) (scan_bounds cs).1

/-- A text has at most the columns of its characters and those by which some of them are raised. -/
theorem width_le (cs : List Char) : width cs ≤ ownWidths cs + raises cs := by
  have hbound := (scan_bounds cs).2
  have hsaved := (scan cs).2.kind.saved_nonneg
  rw [width_eq_scan]
  omega

/-- A sign that leaves a plain tail adds its columns to any text before it. -/
theorem width_concat {c : Char} (h : (scan [c]).2 = .plain) (cs : List Char) :
    width (cs ++ [c]) = width cs + width [c] := by
  rw [width_eq_scan, scan_append_of_plain h, width_eq_scan, width_eq_scan]
  have hcs := scan_nonneg cs
  have hc := scan_nonneg [c]
  simp only
  omega

end LogTail.Text

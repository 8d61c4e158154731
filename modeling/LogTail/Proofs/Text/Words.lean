import Mathlib.Data.List.DropRight
import LogTail.Text.Blank
import LogTail.Proofs.Text.Lower

/-!
Words in small letters. A text is lowered to a word of letters from a to z if and only if its characters are
these letters, small or capital. Of all other characters only two are lowered to one of them: the kelvin
sign, so that words with a k are left out, and the capital I with a dot, which leaves a mark behind the
letter.
-/
namespace LogTail.Text

/-- Whether a character is a small letter from a to z that only itself and its capital are lowered to. -/
def IsWordLetter (c : Char) : Prop :=
  97 ≤ c.toNat ∧ c.toNat ≤ 122 ∧ c ≠ 'k'

instance : DecidablePred IsWordLetter := fun c =>
  inferInstanceAs (Decidable (97 ≤ c.toNat ∧ c.toNat ≤ 122 ∧ c ≠ 'k'))

/-- A code point is lowered by a run that it lies on, or stays. -/
theorem lowerPoint_cases (runs : List CaseRun) (n : ℕ) :
    lowerPoint runs n = n ∨
      ∃ r ∈ runs, r.first ≤ n ∧ n ≤ r.last ∧ lowerPoint runs n = r.lower n := by
  induction runs with
  | nil => exact .inl rfl
  | cons r rest ih =>
    rw [lowerPoint]
    split
    · exact .inl rfl
    split
    · next h =>
      simp only [CaseRun.contains, Bool.and_eq_true, decide_eq_true_eq] at h
      exact .inr ⟨r, List.mem_cons_self, h.1.1, h.1.2, rfl⟩
    · exact ih.imp_right fun ⟨s, hs, hrun⟩ => ⟨s, List.mem_cons_of_mem _ hs, hrun⟩

/-- Beyond ASCII no code point but the kelvin sign is lowered into it. -/
theorem lowerPoint_beyond {n : ℕ} (h : 128 ≤ n) (hkelvin : n ≠ 0x212A) :
    128 ≤ lowerPoint caseRuns n := by
  have hruns : ∀ r ∈ caseRuns, r.last < 128 ∨ (r.first = 0x212A ∧ r.last = 0x212A) ∨
      128 ≤ (r.first : ℤ) + r.shift := by
    decide +kernel
  rcases lowerPoint_cases caseRuns n with hsame | ⟨r, hr, hfirst, hlast, hlower⟩
  · rw [hsame]
    exact h
  · rw [hlower, CaseRun.lower]
    rcases hruns r hr with hbelow | ⟨hfirst', hlast'⟩ | hbeyond <;> omega

/-- Below 128 lowering is that of the letters from A to Z. -/
theorem lowerChar_of_ascii {c : Char} (h : c.toNat < 128) : lowerChar c = [c.toLower] := by
  have hall : ∀ n < 128, lowerChar (Char.ofNat n) = [(Char.ofNat n).toLower] := by
    decide +kernel
  have hc := hall c.toNat h
  rwa [Char.ofNat_toNat] at hc

theorem toLower_of_not_capital {c : Char} (h : c.toNat < 65 ∨ 90 < c.toNat) : c.toLower = c := by
  refine dif_neg ?_
  simp only [ge_iff_le, UInt32.le_iff_toNat_le]
  change ¬ (65 ≤ c.toNat ∧ c.toNat ≤ 90)
  omega

theorem toLower_of_isWordLetter {c : Char} (h : IsWordLetter c) : c.toLower = c :=
  toLower_of_not_capital (.inr (Nat.lt_of_lt_of_le (by decide) h.1))

theorem toNat_ofNat_cases (n : ℕ) : (Char.ofNat n).toNat = n ∨ (Char.ofNat n).toNat = 0 := by
  by_cases h : n.isValidChar
  · have hvalid : Char.ofNat n = Char.ofNatAux n h := dif_pos h
    rw [hvalid]
    exact .inl rfl
  · have hnone : Char.ofNat n = ⟨0, .inl (by decide)⟩ := dif_neg h
    rw [hnone]
    exact .inr rfl

/-- A letter of a word comes from itself and its capital only, by the table of all that are lowered.
-/
theorem lowerChar_eq_iff {c d : Char} (hd : IsWordLetter d) : lowerChar c = [d] ↔ c.toLower = d := by
  obtain ⟨hfirst, hlast, hk⟩ := hd
  by_cases hascii : c.toNat < 128
  · rw [lowerChar_of_ascii hascii, List.singleton_inj]
  · rw [toLower_of_not_capital (by omega)]
    refine iff_of_false ?_ fun hc => hascii (hc ▸ Nat.lt_of_le_of_lt hlast (by decide))
    unfold lowerChar
    split
    · simp
    · rw [List.singleton_inj]
      rintro rfl
      by_cases hkelvin : c.toNat = 0x212A
      · rw [hkelvin] at hk
        exact hk (by decide)
      · have hbeyond := lowerPoint_beyond (Nat.le_of_not_lt hascii) hkelvin
        rcases toNat_ofNat_cases (lowerPoint caseRuns c.toNat) with h | h <;> omega

/-- A text is lowered to a word of such letters exactly where the letters from A to Z are, whatever
the rule for the sigma. -/
theorem lowerBy_eq_word_iff {f : List Char → List Char → Bool} {before cs w : List Char}
    (hw : ∀ c ∈ w, IsWordLetter c) : lowerBy f before cs = w ↔ cs.map Char.toLower = w := by
  induction cs generalizing before w with
  | nil => rfl
  | cons c rest ih =>
    cases w with
    | nil => simp [lowerBy_eq_nil_iff]
    | cons d w =>
      obtain ⟨hd, hw⟩ := List.forall_mem_cons.mp hw
      rw [lowerBy, List.map_cons, List.cons_eq_cons]
      by_cases hsigma : c = 'Σ'
      · -- neither form of the sigma is such a letter, and the capital is none either
        subst hsigma
        refine iff_of_false ?_ ?_
        · rw [if_pos rfl, List.singleton_append, List.cons_eq_cons]
          rintro ⟨rfl, -⟩
          revert hd
          split <;> decide
        · rintro ⟨rfl, -⟩
          exact absurd hd (by decide)
      by_cases hdotted : c = 'İ'
      · -- the dotted capital leaves a mark behind, which no word has
        subst hdotted
        refine iff_of_false ?_ ?_
        · intro h
          have hmark : '\u0307' ∈ w := by
            have htail := (List.cons_eq_cons.mp h).2
            exact htail ▸ List.mem_cons_self
          exact absurd (hw _ hmark) (by decide)
        · rintro ⟨rfl, -⟩
          exact absurd hd (by decide)
      · have hone : lowerChar c = [Char.ofNat (lowerPoint caseRuns c.toNat)] := if_neg hdotted
        rw [if_neg hsigma, hone, List.singleton_append, List.cons_eq_cons, ih hw,
          ← lowerChar_eq_iff hd, hone, List.singleton_inj]

/-- A text is lowered to a word if and only if it is the word but for capitals. -/
theorem lower_eq_word_iff {cs w : List Char} (hw : ∀ c ∈ w, IsWordLetter c) :
    lower cs = w ↔ cs.map Char.toLower = w := by
  rw [lower_eq_lowerBy, lowerBy_eq_word_iff hw]

theorem trimStart_trim (cs : List Char) : trimStart (trim cs) = trim cs := by
  have hfirst : trim cs <+: trimStart cs := List.rdropWhile_prefix isBlank (trimStart cs)
  rw [trimStart, List.dropWhile_eq_self_iff]
  intro hpos
  -- the first character of the trimmed text is the first one that is no blank
  have hpos' : 0 < (trimStart cs).length := Nat.lt_of_lt_of_le hpos hfirst.length_le
  rw [hfirst.getElem hpos]
  exact List.dropWhile_get_zero_not isBlank cs hpos'

theorem trim_trim (cs : List Char) : trim (trim cs) = trim cs := by
  rw [trim, trimStart_trim]
  exact List.rdropWhile_idempotent isBlank (trimStart cs)

end LogTail.Text

import LogTail.Proofs.Json.Lexing

/-!
What is written as JSON stays on its line. No control character is written: those in a string are
escaped, and the rest of the text is made of digits, words and punctuation.
-/
namespace LogTail

open Number

def Printable (cs : List Char) : Prop :=
  ∀ c ∈ cs, 0x20 ≤ c.toNat

instance : DecidablePred Printable :=
  fun cs => List.decidableBAll (fun c : Char => 0x20 ≤ c.toNat) cs

namespace Printable

variable {cs ds : List Char}

theorem nil : Printable [] :=
  fun _ h => nomatch h

theorem cons {c : Char} (hc : 0x20 ≤ c.toNat) (h : Printable cs) : Printable (c :: cs) :=
  List.forall_mem_cons.mpr ⟨hc, h⟩

theorem not_mem (h : Printable cs) {c : Char} (hc : c.toNat < 0x20) : c ∉ cs :=
  fun hmem => absurd (h c hmem) (Nat.not_le_of_lt hc)

theorem append (h : Printable cs) (h' : Printable ds) : Printable (cs ++ ds) :=
  List.forall_mem_append.mpr ⟨h, h'⟩

theorem of_subset (h : Printable cs) (hsub : ds ⊆ cs) : Printable ds :=
  fun c hc => h c (hsub hc)

theorem replicate {c : Char} (hc : 0x20 ≤ c.toNat) (n : ℕ) : Printable (List.replicate n c) := by
  intro d hd
  rw [List.eq_of_mem_replicate hd]
  exact hc

theorem decimal (n : ℕ) : Printable (decimal n) := by
  intro c hc
  have hdigit := range_of_isDigit (isDigit_of_mem_decimal hc)
  exact Nat.le_trans (by decide) (Char.le_def.mp hdigit.1)

theorem padded (width n : ℕ) : Printable (padded width n) :=
  (replicate (by decide) _).append (decimal n)

end Printable

namespace Json

theorem hexChar_printable : ∀ n < 16, 0x20 ≤ (hexChar n).toNat := by
  decide

/-- An escape has no control characters, and what is not escaped is none. -/
theorem escapeChar_printable (c : Char) : Printable (escapeChar c) := by
  unfold escapeChar
  iterate 7
    split
    · decide
  split
  case isTrue h =>
    have hfirst := hexChar_printable (c.toNat / 16) (by omega)
    have hsecond := hexChar_printable (c.toNat % 16) (by omega)
    exact (show Printable ['\\', 'u', '0', '0'] by decide).append (.cons hfirst (.cons hsecond .nil))
  case isFalse h => exact .cons (Nat.le_of_not_lt h) .nil

theorem printString_printable (s : String) : Printable (printString s) := by
  have hinside : Printable (s.toList.flatMap escapeChar) := by
    intro c hc
    obtain ⟨d, -, hd⟩ := List.mem_flatMap.mp hc
    exact escapeChar_printable d c hd
  exact .cons (by decide) (hinside.append (by decide))

theorem printInt_printable (i : ℤ) : Printable (printInt i) := by
  unfold printInt
  split
  · exact .cons (by decide) (.decimal _)
  · exact .decimal _

/-- In whichever of its forms a magnitude is written, it consists of digits, signs and points. -/
theorem printMagnitude_printable (x : Magnitude) : Printable (printMagnitude x) := by
  unfold printMagnitude
  dsimp only
  have hdigits := Printable.decimal (shortest x).digits
  have hzeros (n : ℕ) : Printable (List.replicate n '0') := .replicate (by decide) n
  split_ifs
  · decide
  · exact (hdigits.append (hzeros _)).append (by decide)
  · exact (hdigits.of_subset (List.take_subset _ _)).append
      (.cons (by decide) (hdigits.of_subset (List.drop_subset _ _)))
  · exact .cons (by decide) (.cons (by decide) ((hzeros _).append hdigits))
  all_goals
    refine Printable.append ?_ (.cons (by decide) (.cons (by decide) (.decimal _)))
    generalize decimal (shortest x).digits = digits at hdigits
    cases digits with
    | nil => exact .nil
    | cons d rest =>
      obtain ⟨hd, hrest⟩ := List.forall_mem_cons.mp hdigits
      cases rest with
      | nil => exact .cons hd .nil
      | cons e others => exact .cons hd (.cons (by decide) hrest)

namespace Value

mutual

/-- A JSON value is written without control characters, whatever stands in its strings. -/
theorem print_printable (v : Value) : Printable v.print := by
  cases v with
  | null => decide
  | bool b => cases b <;> decide
  | integer i => exact printInt_printable i
  | float negative x =>
    cases negative with
    | true => exact .cons (by decide) (printMagnitude_printable x)
    | false => exact printMagnitude_printable x
  | string s => exact printString_printable s
  | array items =>
    cases items with
    | nil => decide
    | cons v rest =>
      exact .cons (by decide) (((print_printable v).append (printItems_printable rest)).append (by decide))
  | object fields =>
    cases fields with
    | nil => decide
    | cons field rest =>
      obtain ⟨key, v⟩ := field
      exact .cons (by decide) ((((printString_printable key).append
        (.cons (by decide) (print_printable v))).append (printFields_printable rest)).append (by decide))

theorem printItems_printable (items : List Value) : Printable (printItems items) := by
  cases items with
  | nil => exact .nil
  | cons v rest => exact .cons (by decide) ((print_printable v).append (printItems_printable rest))

theorem printFields_printable (fields : List (String × Value)) : Printable (printFields fields) := by
  cases fields with
  | nil => exact .nil
  | cons field rest =>
    obtain ⟨key, v⟩ := field
    exact .cons (by decide) (((printString_printable key).append
      (.cons (by decide) (print_printable v))).append (printFields_printable rest))

end

end Value

end Json

end LogTail

import Mathlib.Data.Nat.Notation
import LogTail.Number.Digits

/-!
Numbers in decimal digits. A number is made again of the digits it was written in, with zeros in front of
them or without, and what stands behind the digits of another number counts by its places.
-/
namespace LogTail.Number

theorem isDigit_of_mem_decimal {n : ℕ} {c : Char} (h : c ∈ decimal n) : c.isDigit = true :=
  Nat.isDigit_of_mem_toDigits (by decide) (by decide) h

/-- Only zero is written with a zero in front. -/
theorem eq_zero_of_head?_decimal {n : ℕ} (h : (decimal n).head? = some '0') : n = 0 := by
  induction n using Nat.strongRecOn with
  | _ n ih =>
    rw [decimal, Nat.toDigits_eq_if (by decide)] at h
    split at h
    case isTrue => exact Nat.digitChar_eq_zero.mp (Option.some.inj h)
    case isFalse hn =>
      rw [List.head?_append, List.head?_eq_some_head Nat.toDigits_ne_nil, Option.some_or,
        ← List.head?_eq_some_head] at h
      have hzero : n / 10 = 0 := ih (n / 10) (by omega) h
      omega

theorem range_of_isDigit {c : Char} (h : c.isDigit = true) : '0' ≤ c ∧ c ≤ '9' := by
  simpa [Char.isDigit, Char.le_def] using h

theorem digit?_of_isDigit {c : Char} (h : c.isDigit = true) :
    digit? 10 c = some (c.toNat - '0'.toNat) := by
  have hrange := range_of_isDigit h
  have hnine : c.toNat ≤ 57 := hrange.2
  have hvalue : c.toNat - '0'.toNat < 10 := by
    show c.toNat - 48 < 10
    omega
  simp only [digit?, if_pos hrange, if_pos hvalue]

/-- The value of digits, apart from what stands before them. -/
theorem foldl_digits {cs : List Char} (h : ∀ c ∈ cs, c.isDigit = true) (n : ℕ) :
    (cs.filterMap (digit? 10)).foldl (10 * · + ·) n = Nat.ofDigitChars 10 cs n := by
  induction cs generalizing n with
  | nil => rfl
  | cons c rest ih =>
    rw [List.filterMap_cons_some (digit?_of_isDigit (h c List.mem_cons_self)), List.foldl_cons,
      ih fun d hd => h d (List.mem_cons_of_mem c hd)]
    rfl

theorem length_padded {k n : ℕ} (hk : 0 < k) (hn : n < Nat.pow 10 k) : (padded k n).length = k := by
  have hlength : (decimal n).length ≤ k := (Nat.length_toDigits_le_iff (by decide) hk).mpr hn
  rw [padded, List.length_append, List.length_replicate]
  omega

theorem isDigit_of_mem_padded {k n : ℕ} {c : Char} (h : c ∈ padded k n) : c.isDigit = true := by
  rcases List.mem_append.mp h with hzero | hdigit
  · rw [(List.mem_replicate.mp hzero).2]
    rfl
  · exact isDigit_of_mem_decimal hdigit

theorem padded_eq_cons (k n : ℕ) : ∃ c cs, padded k n = c :: cs ∧ c.isDigit = true := by
  cases hcs : padded k n with
  | nil => exact absurd (List.append_eq_nil_iff.mp hcs).2 Nat.toDigits_ne_nil
  | cons c cs => exact ⟨c, cs, rfl, isDigit_of_mem_padded (hcs ▸ List.mem_cons_self)⟩

theorem ofDigits_padded (k n : ℕ) : ofDigits 10 ((padded k n).filterMap (digit? 10)) = n := by
  rw [ofDigits, foldl_digits fun c hc => isDigit_of_mem_padded hc, padded, Nat.ofDigitChars_append,
    Nat.ofDigitChars_replicate_zero, Nat.mul_zero]
  exact Nat.ofDigitChars_ten_toDigits

/-- What stands before digits is shifted by as many places. -/
theorem foldl_eq_ofDigits (ds : List ℕ) (n : ℕ) :
    ds.foldl (10 * · + ·) n = n * Nat.pow 10 ds.length + ofDigits 10 ds := by
  induction ds generalizing n with
  | nil => exact (Nat.mul_one n).symm
  | cons d rest ih =>
    have hcons : ofDigits 10 (d :: rest) = d * Nat.pow 10 rest.length + ofDigits 10 rest := by
      rw [ofDigits, List.foldl_cons, ih]
      simp
    have hpow : Nat.pow 10 (rest.length + 1) = Nat.pow 10 rest.length * 10 := rfl
    rw [List.foldl_cons, ih, hcons, List.length_cons, hpow, Nat.add_mul, ← Nat.add_assoc]
    congr 2
    rw [Nat.mul_comm 10 n, Nat.mul_assoc, Nat.mul_comm 10]

theorem ofDigits_append (ds es : List ℕ) :
    ofDigits 10 (ds ++ es) = ofDigits 10 ds * Nat.pow 10 es.length + ofDigits 10 es := by
  rw [ofDigits, List.foldl_append, foldl_eq_ofDigits]
  rfl

/-- A number of `k` digits is below the `k`-th power of ten. -/
theorem ofDigits_lt {ds : List ℕ} (h : ∀ d ∈ ds, d < 10) : ofDigits 10 ds < Nat.pow 10 ds.length := by
  induction ds with
  | nil => exact Nat.one_pos
  | cons d rest ih =>
    obtain ⟨hd, hrest⟩ := List.forall_mem_cons.mp h
    have hcons : ofDigits 10 (d :: rest) = d * Nat.pow 10 rest.length + ofDigits 10 rest :=
      (ofDigits_append [d] rest).trans (by rw [show ofDigits 10 [d] = d from Nat.zero_add d])
    calc ofDigits 10 (d :: rest)
        < d * Nat.pow 10 rest.length + Nat.pow 10 rest.length := by
          rw [hcons]
          exact Nat.add_lt_add_left (ih hrest) _
      _ = (d + 1) * Nat.pow 10 rest.length := (Nat.succ_mul _ _).symm
      _ ≤ 10 * Nat.pow 10 rest.length := Nat.mul_le_mul_right _ hd
      _ = Nat.pow 10 (rest.length + 1) := Nat.mul_comm _ _

theorem ofDigits_zeros (k : ℕ) : ofDigits 10 (List.replicate k 0) = 0 := by
  induction k with
  | zero => rfl
  | succ k ih =>
    rw [List.replicate_succ]
    exact ih

/-- The first digits make the number that is left when the places of the others are cut off. -/
theorem ofDigits_take {ds : List ℕ} (h : ∀ d ∈ ds, d < 10) (k : ℕ) :
    ofDigits 10 (ds.take k) = ofDigits 10 ds / Nat.pow 10 (ds.length - k) := by
  have hrest : ofDigits 10 (ds.drop k) < Nat.pow 10 (ds.length - k) :=
    List.length_drop ▸ ofDigits_lt fun d hd => h d (List.mem_of_mem_drop hd)
  have hsplit : ofDigits 10 ds =
      ofDigits 10 (ds.drop k) + Nat.pow 10 (ds.length - k) * ofDigits 10 (ds.take k) := by
    rw [Nat.add_comm, Nat.mul_comm, ← List.length_drop, ← ofDigits_append, List.take_append_drop]
  rw [hsplit, Nat.add_mul_div_left _ _ (Nat.zero_lt_of_lt hrest), Nat.div_eq_of_lt hrest, Nat.zero_add]

end LogTail.Number

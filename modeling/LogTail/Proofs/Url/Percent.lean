import LogTail.Proofs.Url.Form

/-!
Percent encoding of parts of a URL. Percent signs are left alone, so what stands encoded in a text stays as
it is: what was encoded once is not changed any more, and an encoded text stands for the same bytes as the
text that it was made from.
-/
namespace LogTail.Url

open LogTail.Number LogTail.Text

/-- What holds of all ASCII characters can be decided. -/
theorem forall_ascii {p : Char → Prop} (h : ∀ n : Fin 128, p (Char.ofNat n)) {c : Char}
    (hc : c.toNat < 128) : p c := by
  have hp := h ⟨c.toNat, hc⟩
  rwa [Char.ofNat_toNat] at hp

theorem lt_of_isAlphanum {c : Char} (h : c.isAlphanum = true) : c.toNat < 128 := by
  delta Char.isAlphanum Char.isAlpha Char.isUpper Char.isLower Char.isDigit at h
  simp only [Bool.or_eq_true, Bool.and_eq_true, decide_eq_true_eq, ge_iff_le,
    UInt32.le_iff_toNat_le] at h
  change c.val.toNat < 128
  have hz : 'z'.val.toNat = 122 := rfl
  have hZ : 'Z'.val.toNat = 90 := rfl
  have h9 : '9'.val.toNat = 57 := rfl
  omega

theorem lt_of_isFormSafe {c : Char} (h : isFormSafe c = true) : c.toNat < 128 := by
  simp only [isFormSafe, Bool.or_eq_true, beq_iff_eq] at h
  rcases h with (((h | rfl) | rfl) | rfl) | rfl
  · exact lt_of_isAlphanum h
  all_goals decide

theorem isFormSafe_of_digit? {c : Char} (h : (digit? 16 c).isSome = true) : isFormSafe c = true := by
  have hascii : c.toNat < 128 := by
    by_contra hbeyond
    have hgreater {d : Char} (hd : d.toNat < 128) : ¬ c ≤ d := fun hle =>
      hbeyond (Nat.lt_of_le_of_lt (UInt32.le_iff_toNat_le.mp hle) hd)
    have h9 : ¬ c ≤ '9' := hgreater (by decide)
    have hf : ¬ c ≤ 'f' := hgreater (by decide)
    have hF : ¬ c ≤ 'F' := hgreater (by decide)
    simp [digit?, h9, hf, hF] at h
  have hall : ∀ n : Fin 128, (digit? 16 (Char.ofNat n)).isSome = true →
      isFormSafe (Char.ofNat n) = true := by decide
  exact forall_ascii (p := fun c => (digit? 16 c).isSome = true → isFormSafe c = true) hall hascii h

/-- Whether a set of characters to be escaped leaves alone what stands for an escaped byte. -/
def LeavesEncoded (escaped : Char → Bool) : Prop :=
  escaped '%' = false ∧ ∀ c, isFormSafe c = true → escaped c = false

def Kept (escaped : Char → Bool) (c : Char) : Prop :=
  escaped c = false ∧ c.toNat < 0x7F

variable {escaped : Char → Bool} {c : Char} {cs : List Char}

theorem percentEncode_cons_of_kept (h : Kept escaped c) (cs : List Char) :
    percentEncode escaped (c :: cs) = c :: percentEncode escaped cs := by
  have hkept : (escaped c || decide (0x7F ≤ c.toNat)) = false := by
    simp [h.1, h.2]
  rw [percentEncode, List.flatMap_cons, hkept]
  rfl

theorem percentEncode_cons_of_not_kept (h : ¬ Kept escaped c) (cs : List Char) :
    percentEncode escaped (c :: cs) = escapeChar c ++ percentEncode escaped cs := by
  have hescaped : (escaped c || decide (0x7F ≤ c.toNat)) = true := by
    by_contra hnot
    simp only [Bool.or_eq_true, decide_eq_true_eq, not_or, Bool.not_eq_true, not_le] at hnot
    exact h hnot
  rw [percentEncode, List.flatMap_cons, hescaped]
  rfl

/-- A text that needs no escape stays as it is. -/
theorem percentEncode_of_kept (h : ∀ c ∈ cs, Kept escaped c) : percentEncode escaped cs = cs := by
  induction cs with
  | nil => rfl
  | cons c rest ih =>
    rw [percentEncode_cons_of_kept (h c List.mem_cons_self),
      ih fun x hx => h x (List.mem_cons_of_mem c hx)]

/-- What is encoded has the characters that stay, percent signs and hexadecimal digits. -/
theorem mem_percentEncode (h : c ∈ percentEncode escaped cs) :
    (c ∈ cs ∧ Kept escaped c) ∨ c = '%' ∨ isFormSafe c = true := by
  induction cs with
  | nil => cases h
  | cons d rest ih =>
    by_cases hd : Kept escaped d
    · rw [percentEncode_cons_of_kept hd] at h
      rcases List.mem_cons.mp h with rfl | h
      · exact .inl ⟨List.mem_cons_self, hd⟩
      · exact (ih h).imp_left fun hc => ⟨List.mem_cons_of_mem d hc.1, hc.2⟩
    · rw [percentEncode_cons_of_not_kept hd] at h
      rcases List.mem_append.mp h with h | h
      · exact .inr (of_mem_escapeChar h)
      · exact (ih h).imp_left fun hc => ⟨List.mem_cons_of_mem d hc.1, hc.2⟩

theorem lt_127_of_isFormSafe (h : isFormSafe c = true) : c.toNat < 0x7F := by
  have hall : ∀ n : Fin 128, isFormSafe (Char.ofNat n) = true → (Char.ofNat n).toNat < 0x7F := by
    decide
  exact forall_ascii (p := fun c => isFormSafe c = true → c.toNat < 0x7F) hall (lt_of_isFormSafe h) h

/-- What an escape consists of is not escaped again. -/
theorem LeavesEncoded.kept (hset : LeavesEncoded escaped) (h : c = '%' ∨ isFormSafe c = true) :
    Kept escaped c := by
  rcases h with rfl | h
  · exact ⟨hset.1, by decide⟩
  · exact ⟨hset.2 c h, lt_127_of_isFormSafe h⟩

/-- What is encoded has only characters that stand for themselves. -/
theorem LeavesEncoded.kept_of_mem (hset : LeavesEncoded escaped)
    (h : c ∈ percentEncode escaped cs) : Kept escaped c :=
  (mem_percentEncode h).elim And.right hset.kept

/-- What begins with a character other than a percent sign, when it is encoded, began with it before. -/
theorem percentEncode_eq_cons (hc : c ≠ '%') {rest : List Char}
    (h : percentEncode escaped cs = c :: rest) :
    ∃ cs', cs = c :: cs' ∧ percentEncode escaped cs' = rest := by
  cases cs with
  | nil => cases h
  | cons d cs' =>
    by_cases hd : Kept escaped d
    · rw [percentEncode_cons_of_kept hd] at h
      obtain ⟨rfl, hrest⟩ := List.cons.inj h
      exact ⟨cs', rfl, hrest⟩
    · obtain ⟨b, bytes, hbytes⟩ := List.exists_cons_of_ne_nil (spells_char d).ne_nil
      rw [percentEncode_cons_of_not_kept hd, escapeChar, hbytes] at h
      exact absurd (List.cons.inj h).1.symm hc

def BeginsByte (cs : List Char) : Prop :=
  ∃ a b rest, cs = a :: b :: rest ∧ (digit? 16 a).isSome = true ∧ (digit? 16 b).isSome = true

theorem ne_percent_of_digit? (h : (digit? 16 c).isSome = true) : c ≠ '%' := by
  rintro rfl
  exact Bool.false_ne_true h

/-- A percent sign without two digits stands for itself. -/
theorem percentDecode_percent (h : ¬ BeginsByte cs) :
    percentDecode ('%' :: cs) = 0x25 :: percentDecode cs := by
  match cs with
  | [] => rfl
  | [a] => rfl
  | a :: b :: rest =>
    rw [percentDecode]
    split
    case h_1 hhigh hlow =>
      exact absurd ⟨a, b, rest, rfl, by rw [hhigh]; rfl, by rw [hlow]; rfl⟩ h
    case h_2 => rfl

/-- Encoding makes no escape begin that did not begin before. -/
theorem beginsByte_of_percentEncode (h : BeginsByte (percentEncode escaped cs)) : BeginsByte cs := by
  obtain ⟨a, b, rest, hcs, ha, hb⟩ := h
  obtain ⟨cs', rfl, hcs'⟩ := percentEncode_eq_cons (ne_percent_of_digit? ha) hcs
  obtain ⟨cs'', rfl, -⟩ := percentEncode_eq_cons (ne_percent_of_digit? hb) hcs'
  exact ⟨a, b, cs'', rfl, ha, hb⟩

/-- Encoding a text does not change what it stands for. -/
theorem percentDecode_percentEncode (hset : LeavesEncoded escaped) (cs : List Char) :
    percentDecode (percentEncode escaped cs) = percentDecode cs := by
  have hpercent : Kept escaped '%' := hset.kept (.inl rfl)
  have hdigit {c : Char} (h : (digit? 16 c).isSome = true) : Kept escaped c :=
    hset.kept (.inr (isFormSafe_of_digit? h))
  -- after a percent sign that begins no byte, the rest is read from its beginning
  have hlone {rest : List Char} (hrest : ¬ BeginsByte rest)
      (ih : percentDecode (percentEncode escaped rest) = percentDecode rest) :
      percentDecode (percentEncode escaped ('%' :: rest)) = percentDecode ('%' :: rest) := by
    rw [percentEncode_cons_of_kept hpercent, percentDecode_percent (mt beginsByte_of_percentEncode hrest),
      ih, percentDecode_percent hrest]
  fun_induction percentDecode cs with
  | case1 a b rest high low hlow hhigh ih =>
    have ha : Kept escaped a := hdigit (by rw [hhigh]; rfl)
    have hb : Kept escaped b := hdigit (by rw [hlow]; rfl)
    rw [percentEncode_cons_of_kept hpercent, percentEncode_cons_of_kept ha,
      percentEncode_cons_of_kept hb, percentDecode, hhigh, hlow, ← ih]
  | case2 a b rest hbyte ih =>
    have hrest : ¬ BeginsByte (a :: b :: rest) := by
      rintro ⟨a', b', rest', heq, ha, hb⟩
      cases heq
      obtain ⟨high, hhigh⟩ := Option.isSome_iff_exists.mp ha
      obtain ⟨low, hlow⟩ := Option.isSome_iff_exists.mp hb
      exact hbyte high low hhigh hlow
    rw [hlone hrest ih, percentDecode_percent hrest]
  | case3 c rest hshort ih =>
    by_cases hc : c = '%'
    · subst hc
      have hrest : ¬ BeginsByte rest := by
        rintro ⟨a, b, rest', rfl, -⟩
        exact hshort a b rest' rfl rfl
      rw [hlone hrest ih, percentDecode_percent hrest]
      rfl
    · by_cases hkept : Kept escaped c
      · rw [percentEncode_cons_of_kept hkept, percentDecode_cons hc, ih]
      · rw [percentEncode_cons_of_not_kept hkept, escapeChar, percentDecode_escaped, ih]
  | case4 => rfl

end LogTail.Url

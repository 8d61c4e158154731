import LogTail.Proofs.Text.Words
import LogTail.Proofs.Url.Percent
import LogTail.Url

/-!
The segments of a path that are steps. Whether a segment stays where it is or goes up depends on nothing but
the text it stands for, one full stop or two, so it does the same before and after it is encoded.
-/
namespace LogTail.Url

open LogTail.Number LogTail.Text

theorem digit?_lt {c : Char} {n : ℕ} (h : digit? 16 c = some n) : n < 16 := by
  unfold digit? at h
  obtain ⟨hlt, hvalue⟩ := Option.ite_none_right_eq_some.mp h
  exact Option.some.inj hvalue ▸ hlt

theorem eq_of_digit? {c : Char} :
    (digit? 16 c = some 2 → c = '2') ∧ (digit? 16 c = some 14 → c = 'e' ∨ c = 'E') := by
  by_cases hsome : (digit? 16 c).isSome = true
  · have hall : ∀ n : Fin 128, (digit? 16 (Char.ofNat n) = some 2 → Char.ofNat n = '2') ∧
        (digit? 16 (Char.ofNat n) = some 14 → Char.ofNat n = 'e' ∨ Char.ofNat n = 'E') := by decide
    exact forall_ascii (p := fun c => (digit? 16 c = some 2 → c = '2') ∧
      (digit? 16 c = some 14 → c = 'e' ∨ c = 'E')) hall (lt_of_isFormSafe (isFormSafe_of_digit? hsome))
  · constructor <;> intro h <;> exact absurd (by rw [h]; rfl) hsome

theorem percentDecode_eq_nil {cs : List Char} (h : percentDecode cs = []) : cs = [] := by
  unfold percentDecode at h
  split at h
  case h_1 => split at h <;> cases h
  case h_2 c rest _ => exact absurd (List.append_eq_nil_iff.mp h).1 (spells_char c).ne_nil
  case h_3 => rfl

/-- Only one pair of digits makes the byte of a full stop, and one of them may be a capital. -/
theorem eq_of_digits_dot {a b : Char} {high low : ℕ} (ha : digit? 16 a = some high)
    (hb : digit? 16 b = some low) (h : UInt8.ofNat (16 * high + low) = 0x2E) :
    a = '2' ∧ (b = 'e' ∨ b = 'E') := by
  have hhigh := digit?_lt ha
  have hlow := digit?_lt hb
  have hvalue : 16 * high + low = 0x2E := by
    have hnat := congrArg UInt8.toNat h
    rw [toNat_ofNat_of_eq rfl (by omega)] at hnat
    exact hnat
  obtain rfl : high = 2 := by omega
  obtain rfl : low = 14 := by omega
  exact ⟨eq_of_digit?.1 ha, eq_of_digit?.2 hb⟩

/-- Only the full stop itself is encoded with its byte at the beginning: all that is longer begins
with a greater one. -/
theorem eq_of_encoding_dot {c : Char} {more bs : List UInt8}
    (h : String.utf8EncodeChar c ++ more = 0x2E :: bs) : c = '.' ∧ more = bs := by
  have hspells := spells_char c
  generalize String.utf8EncodeChar c = bytes at h hspells
  cases hspells with
  | one small ha =>
    obtain ⟨rfl, hrest⟩ := List.cons.inj h
    exact ⟨Char.toNat_inj.mp ha.symm, hrest⟩
  | two large small ha hb =>
    obtain ⟨rfl, -⟩ := List.cons.inj h
    change 46 = _ at ha
    omega
  | three large small valid ha hb hc =>
    obtain ⟨rfl, -⟩ := List.cons.inj h
    change 46 = _ at ha
    omega
  | four large small ha hb hc hd =>
    obtain ⟨rfl, -⟩ := List.cons.inj h
    change 46 = _ at ha
    omega

/-- The ways to write a full stop. -/
theorem percentDecode_eq_dot {cs : List Char} {bs : List UInt8}
    (h : percentDecode cs = 0x2E :: bs) :
    ∃ rest, percentDecode rest = bs ∧
      (cs = '.' :: rest ∨ cs = '%' :: '2' :: 'e' :: rest ∨ cs = '%' :: '2' :: 'E' :: rest) := by
  cases cs with
  | nil => cases h
  | cons c rest =>
    by_cases hc : c = '%'
    · subst hc
      by_cases hbyte : BeginsByte rest
      · obtain ⟨a, b, rest, rfl, ha, hb⟩ := hbyte
        obtain ⟨high, hhigh⟩ := Option.isSome_iff_exists.mp ha
        obtain ⟨low, hlow⟩ := Option.isSome_iff_exists.mp hb
        rw [percentDecode, hhigh, hlow] at h
        obtain ⟨hdot, hrest⟩ := List.cons.inj h
        obtain ⟨rfl, rfl | rfl⟩ := eq_of_digits_dot hhigh hlow hdot
        · exact ⟨rest, hrest, .inr (.inl rfl)⟩
        · exact ⟨rest, hrest, .inr (.inr rfl)⟩
      · rw [percentDecode_percent hbyte] at h
        exact absurd (List.cons.inj h).1 (by decide)
    · rw [percentDecode_cons hc] at h
      obtain ⟨rfl, hrest⟩ := eq_of_encoding_dot h
      exact ⟨rest, hrest, .inl rfl⟩

theorem eq_of_toLower {c : Char} :
    (c.toLower = '.' ∨ c.toLower = '%' ∨ c.toLower = '2' → c = c.toLower) ∧
      (c.toLower = 'e' → c = 'e' ∨ c = 'E') := by
  by_cases hascii : c.toNat < 128
  · have hall : ∀ n : Fin 128,
        ((Char.ofNat n).toLower = '.' ∨ (Char.ofNat n).toLower = '%' ∨ (Char.ofNat n).toLower = '2' →
          Char.ofNat n = (Char.ofNat n).toLower) ∧
        ((Char.ofNat n).toLower = 'e' → Char.ofNat n = 'e' ∨ Char.ofNat n = 'E') := by decide
    exact forall_ascii (p := fun c =>
      (c.toLower = '.' ∨ c.toLower = '%' ∨ c.toLower = '2' → c = c.toLower) ∧
        (c.toLower = 'e' → c = 'e' ∨ c = 'E')) hall hascii
  · rw [toLower_of_not_capital (.inr (by omega))]
    exact ⟨fun _ => rfl, .inl⟩

/-- A full stop as it is written in small letters, at the beginning of a text. -/
theorem percentDecode_of_lowered_dot {cs t : List Char}
    (h : cs.map Char.toLower = '.' :: t ∨ cs.map Char.toLower = '%' :: '2' :: 'e' :: t) :
    ∃ rest, percentDecode cs = 0x2E :: percentDecode rest ∧ rest.map Char.toLower = t := by
  rcases h with h | h
  · obtain ⟨c, rest, rfl, hc, hrest⟩ := List.map_eq_cons_iff.mp h
    obtain rfl : c = '.' := (eq_of_toLower.1 (.inl hc)).trans hc
    exact ⟨rest, percentDecode_cons (by decide) rest, hrest⟩
  · obtain ⟨c, cs', rfl, hc, htail⟩ := List.map_eq_cons_iff.mp h
    obtain ⟨d, cs'', rfl, hd, htail'⟩ := List.map_eq_cons_iff.mp htail
    obtain ⟨e, rest, rfl, he, hrest⟩ := List.map_eq_cons_iff.mp htail'
    obtain rfl : c = '%' := (eq_of_toLower.1 (.inr (.inl hc))).trans hc
    obtain rfl : d = '2' := (eq_of_toLower.1 (.inr (.inr hd))).trans hd
    rcases eq_of_toLower.2 he with rfl | rfl <;> exact ⟨rest, rfl, hrest⟩

/-- A segment stays where it is if and only if it stands for a full stop. -/
theorem staysHere_iff {cs : List Char} : staysHere cs = true ↔ percentDecode cs = [0x2E] := by
  constructor
  · intro h
    have hlowered : cs.map Char.toLower = ['.'] ∨ cs.map Char.toLower = ['%', '2', 'e'] := by
      simpa [staysHere] using h
    obtain ⟨rest, hdot, hrest⟩ := percentDecode_of_lowered_dot hlowered
    obtain rfl := List.map_eq_nil_iff.mp hrest
    exact hdot
  · intro h
    obtain ⟨rest, hrest, hcs⟩ := percentDecode_eq_dot h
    obtain rfl := percentDecode_eq_nil hrest
    rcases hcs with rfl | rfl | rfl <;> rfl

/-- A segment goes one step up if and only if it stands for two full stops. -/
theorem stepsUp_iff {cs : List Char} : stepsUp cs = true ↔ percentDecode cs = [0x2E, 0x2E] := by
  constructor
  · intro h
    obtain ⟨t, hlowered, ht⟩ : ∃ t,
        (cs.map Char.toLower = '.' :: t ∨ cs.map Char.toLower = '%' :: '2' :: 'e' :: t) ∧
          (t = ['.'] ∨ t = ['%', '2', 'e']) := by
      have hforms : cs.map Char.toLower = ['.', '.'] ∨ cs.map Char.toLower = ['.', '%', '2', 'e'] ∨
          cs.map Char.toLower = ['%', '2', 'e', '.'] ∨
          cs.map Char.toLower = ['%', '2', 'e', '%', '2', 'e'] := by
        simpa [stepsUp] using h
      rcases hforms with h | h | h | h
      · exact ⟨_, .inl h, .inl rfl⟩
      · exact ⟨_, .inl h, .inr rfl⟩
      · exact ⟨_, .inr h, .inl rfl⟩
      · exact ⟨_, .inr h, .inr rfl⟩
    obtain ⟨rest, hdot, rfl⟩ := percentDecode_of_lowered_dot hlowered
    obtain ⟨rest', hdot', hrest'⟩ := percentDecode_of_lowered_dot ht
    obtain rfl := List.map_eq_nil_iff.mp hrest'
    rw [hdot, hdot']
    rfl
  · intro h
    obtain ⟨rest, hrest, hcs⟩ := percentDecode_eq_dot h
    obtain ⟨rest', hrest', hcs'⟩ := percentDecode_eq_dot hrest
    obtain rfl := percentDecode_eq_nil hrest'
    rcases hcs' with rfl | rfl | rfl <;> rcases hcs with rfl | rfl | rfl <;> rfl

theorem leavesEncoded_escapedInPath : LeavesEncoded escapedInPath := by
  have hall : ∀ n : Fin 128, isFormSafe (Char.ofNat n) = true → escapedInPath (Char.ofNat n) = false := by
    decide
  exact ⟨rfl, fun c hc => forall_ascii
    (p := fun c => isFormSafe c = true → escapedInPath c = false) hall (lt_of_isFormSafe hc) hc⟩

/-- What a segment does does not depend on whether it is encoded. -/
theorem steps_percentEncode (cs : List Char) :
    staysHere (percentEncode escapedInPath cs) = staysHere cs ∧
      stepsUp (percentEncode escapedInPath cs) = stepsUp cs := by
  have hsame := percentDecode_percentEncode leavesEncoded_escapedInPath cs
  constructor
  · rw [Bool.eq_iff_iff, staysHere_iff, staysHere_iff, hsame]
  · rw [Bool.eq_iff_iff, stepsUp_iff, stepsUp_iff, hsame]

end LogTail.Url

import Mathlib.Data.String.Basic
import Mathlib.Order.Monotone.Basic
import LogTail.Text.Decoding

/-!
Texts and their bytes in UTF-8. A character has one to four bytes, and the first of them says how many.
So what was encoded is read back whatever follows it, and texts sort by their bytes just as they sort by
their characters.
-/
namespace LogTail.Text

/-- The ways to spell the character of a number in bytes. -/
inductive Spells (n : ℕ) : List UInt8 → Prop
  | one {a : UInt8} (small : n ≤ 0x7F) (ha : a.toNat = n) : Spells n [a]
  | two {a b : UInt8} (large : 0x7F < n) (small : n ≤ 0x7FF) (ha : a.toNat = 0xC0 + n / 64)
      (hb : b.toNat = 0x80 + n % 64) : Spells n [a, b]
  | three {a b c : UInt8} (large : 0x7FF < n) (small : n ≤ 0xFFFF)
      (valid : n < 0xD800 ∨ 0xDFFF < n) (ha : a.toNat = 0xE0 + n / 64 / 64)
      (hb : b.toNat = 0x80 + n / 64 % 64) (hc : c.toNat = 0x80 + n % 64) : Spells n [a, b, c]
  | four {a b c d : UInt8} (large : 0xFFFF < n) (small : n ≤ 0x10FFFF)
      (ha : a.toNat = 0xF0 + n / 64 / 64 / 64) (hb : b.toNat = 0x80 + n / 64 / 64 % 64)
      (hc : c.toNat = 0x80 + n / 64 % 64) (hd : d.toNat = 0x80 + n % 64) :
      Spells n [a, b, c, d]

theorem toNat_valid (c : Char) : c.toNat < 0xD800 ∨ 0xDFFF < c.toNat ∧ c.toNat < 0x110000 :=
  c.valid

theorem toNat_ofNat_of_eq {m n : ℕ} (h : m = n) (hn : n < 256) : (UInt8.ofNat m).toNat = n := by
  rw [h, UInt8.toNat_ofNat', Nat.mod_eq_of_lt hn]

/-- Every character is encoded in one of the ways to spell it. -/
theorem spells_char (c : Char) : Spells c.toNat (String.utf8EncodeChar c) := by
  have hvalid := toNat_valid c
  have hval : c.val.toNat = c.toNat := rfl
  unfold String.utf8EncodeChar
  rw [hval]
  dsimp only
  split
  case isTrue h => exact .one h (toNat_ofNat_of_eq rfl (by omega))
  case isFalse h =>
    split
    case isTrue h' =>
      exact .two (by omega) h' (toNat_ofNat_of_eq (by omega) (by omega))
        (toNat_ofNat_of_eq (by omega) (by omega))
    case isFalse h' =>
      split
      case isTrue h'' =>
        exact .three (by omega) h'' (by omega) (toNat_ofNat_of_eq (by omega) (by omega))
          (toNat_ofNat_of_eq (by omega) (by omega)) (toNat_ofNat_of_eq (by omega) (by omega))
      case isFalse h'' =>
        exact .four (by omega) (by omega) (toNat_ofNat_of_eq (by omega) (by omega))
          (toNat_ofNat_of_eq (by omega) (by omega)) (toNat_ofNat_of_eq (by omega) (by omega))
          (toNat_ofNat_of_eq (by omega) (by omega))

theorem Spells.ne_nil {n : ℕ} {bytes : List UInt8} (h : Spells n bytes) : bytes ≠ [] := by
  cases h <;> exact List.cons_ne_nil _ _

theorem decodeUtf8From_cons (state : Option Partial) (b : UInt8) (rest : List UInt8) :
    decodeUtf8From state (b :: rest) =
      (utf8Step state b.toNat).2 ++ decodeUtf8From (utf8Step state b.toNat).1 rest :=
  rfl

theorem utf8Step_next {point missing low high b : ℕ} (h : low ≤ b ∧ b ≤ high) (hm : missing ≠ 1) :
    utf8Step (some ⟨point, missing, low, high⟩) b =
      (some ⟨point * 64 + (b - 0x80), missing - 1, 0x80, 0xBF⟩, []) := by
  unfold utf8Step
  dsimp only
  rw [if_pos h, if_neg hm]

theorem utf8Step_last {point low high b : ℕ} (h : low ≤ b ∧ b ≤ high) :
    utf8Step (some ⟨point, 1, low, high⟩) b = (none, [Char.ofNat (point * 64 + (b - 0x80))]) := by
  unfold utf8Step
  dsimp only
  rw [if_pos h, if_pos rfl]

/-- The bytes of a character are read as that character, and nothing is left over of them. -/
theorem decodeUtf8From_spelled {n : ℕ} {bytes : List UInt8} (h : Spells n bytes)
    (rest : List UInt8) :
    decodeUtf8From none (bytes ++ rest) = Char.ofNat n :: decodeUtf8From none rest := by
  cases h with
  | one small ha =>
    have hfirst : utf8Step none n = (none, [Char.ofNat n]) := if_pos (by omega)
    rw [List.singleton_append, decodeUtf8From_cons, ha, hfirst, List.singleton_append]
  | two large small ha hb =>
    have hfirst : utf8Step none (0xC0 + n / 64) = (some ⟨n / 64, 1, 0x80, 0xBF⟩, []) := by
      unfold utf8Step firstByte
      rw [if_neg (by omega), if_pos (by omega), Nat.add_sub_cancel_left]
    have hlast : n / 64 * 64 + (0x80 + n % 64 - 0x80) = n := by omega
    simp only [List.cons_append, List.nil_append, decodeUtf8From_cons, ha, hb, hfirst]
    rw [utf8Step_last (by omega), hlast, List.singleton_append]
  | three large small valid ha hb hc =>
    have hfirst : utf8Step none (0xE0 + n / 64 / 64) = (some ⟨n / 64 / 64, 2,
        if 0xE0 + n / 64 / 64 = 0xE0 then 0xA0 else 0x80,
        if 0xE0 + n / 64 / 64 = 0xED then 0x9F else 0xBF⟩, []) := by
      unfold utf8Step firstByte
      rw [if_neg (by omega), if_neg (by omega), if_pos (by omega), Nat.add_sub_cancel_left]
    have hnext : n / 64 / 64 * 64 + (0x80 + n / 64 % 64 - 0x80) = n / 64 := by omega
    have hlast : n / 64 * 64 + (0x80 + n % 64 - 0x80) = n := by omega
    simp only [List.cons_append, List.nil_append, decodeUtf8From_cons, ha, hb, hc, hfirst]
    -- a number too small for three bytes, or a surrogate, would not pass the second byte
    rw [utf8Step_next (by split <;> split <;> omega) (by omega), hnext, utf8Step_last (by omega),
      hlast, List.nil_append, List.singleton_append]
  | four large small ha hb hc hd =>
    have hfirst : utf8Step none (0xF0 + n / 64 / 64 / 64) = (some ⟨n / 64 / 64 / 64, 3,
        if 0xF0 + n / 64 / 64 / 64 = 0xF0 then 0x90 else 0x80,
        if 0xF0 + n / 64 / 64 / 64 = 0xF4 then 0x8F else 0xBF⟩, []) := by
      unfold utf8Step firstByte
      rw [if_neg (by omega), if_neg (by omega), if_neg (by omega), if_pos (by omega),
        Nat.add_sub_cancel_left]
    have hsecond : n / 64 / 64 / 64 * 64 + (0x80 + n / 64 / 64 % 64 - 0x80) = n / 64 / 64 := by
      omega
    have hthird : n / 64 / 64 * 64 + (0x80 + n / 64 % 64 - 0x80) = n / 64 := by omega
    have hlast : n / 64 * 64 + (0x80 + n % 64 - 0x80) = n := by omega
    simp only [List.cons_append, List.nil_append, decodeUtf8From_cons, ha, hb, hc, hd, hfirst]
    rw [utf8Step_next (by split <;> split <;> omega) (by omega), hsecond,
      utf8Step_next (by omega) (by omega), hthird, utf8Step_last (by omega), hlast,
      List.nil_append, List.nil_append, List.singleton_append]

/-- What was encoded is read back. -/
theorem decodeUtf8_encodeUtf8 (cs : List Char) : decodeUtf8 (encodeUtf8 cs) = cs := by
  induction cs with
  | nil => rfl
  | cons c rest ih =>
    rw [decodeUtf8, encodeUtf8, List.flatMap_cons, decodeUtf8From_spelled (spells_char c),
      Char.ofNat_toNat]
    exact congrArg (c :: ·) ih

def bytes (s : String) : List ℕ :=
  (encodeUtf8 s.toList).map (·.toNat)

/-- Of two characters the lesser has the lesser bytes, whatever follows them. -/
theorem spelled_lt {m n : ℕ} {as bs : List UInt8} (ha : Spells m as) (hb : Spells n bs)
    (h : m < n) (xs ys : List ℕ) : as.map (·.toNat) ++ xs < bs.map (·.toNat) ++ ys := by
  -- where the lengths differ the first bytes do; otherwise the first digit that differs decides
  cases ha <;> cases hb <;>
    simp only [List.map_cons, List.map_nil, List.cons_append, List.nil_append,
      List.cons_lt_cons_iff] <;> omega

/-- The encoding keeps the order of texts. -/
theorem encodeUtf8_lt {xs ys : List Char} (h : xs < ys) :
    (encodeUtf8 xs).map (·.toNat) < (encodeUtf8 ys).map (·.toNat) := by
  induction ys generalizing xs with
  | nil => exact absurd h (List.not_lt_nil xs)
  | cons d ys ih =>
    cases xs with
    | nil =>
      have hsome : (encodeUtf8 (d :: ys)).map (·.toNat) ≠ [] := by
        rw [encodeUtf8, List.flatMap_cons, List.map_append]
        exact List.append_ne_nil_of_left_ne_nil (mt List.map_eq_nil_iff.mp (spells_char d).ne_nil) _
      obtain ⟨b, rest, hbytes⟩ := List.exists_cons_of_ne_nil hsome
      rw [hbytes]
      exact List.nil_lt_cons b rest
    | cons c xs =>
      simp only [encodeUtf8, List.flatMap_cons, List.map_append]
      rcases List.cons_lt_cons_iff.mp h with hlt | ⟨rfl, hlt⟩
      · exact spelled_lt (spells_char c) (spells_char d) hlt _ _
      · exact List.append_left_lt (ih hlt)

/-- Texts sort by their bytes as they sort by their characters. -/
theorem bytes_strictMono : StrictMono bytes := by
  intro s t h
  exact encodeUtf8_lt (String.lt_iff_toList_lt.mp h)

def byteSize (cs : List Char) : ℕ :=
  (String.ofList cs).utf8ByteSize

@[simp] theorem byteSize_nil : byteSize [] = 0 :=
  rfl

@[simp] theorem byteSize_append (cs ds : List Char) :
    byteSize (cs ++ ds) = byteSize cs + byteSize ds := by
  rw [byteSize, String.ofList_append, String.utf8ByteSize_append]
  rfl

@[simp] theorem byteSize_cons (c : Char) (cs : List Char) :
    byteSize (c :: cs) = c.utf8Size + byteSize cs := by
  have hone : byteSize [c] = c.utf8Size := by
    rw [byteSize, ← String.singleton_eq_ofList, String.utf8ByteSize_singleton]
  rw [← List.singleton_append, byteSize_append, hone]

theorem byteSize_toList (s : String) : byteSize s.toList = s.utf8ByteSize := by
  rw [byteSize, String.ofList_toList]

theorem byteSize_pos {cs : List Char} (h : cs ≠ []) : 0 < byteSize cs := by
  obtain ⟨c, rest, rfl⟩ := List.exists_cons_of_ne_nil h
  have hc := c.utf8Size_pos
  rw [byteSize_cons]
  omega

/-- Of two parts with which a text begins, the one with fewer bytes begins the other. -/
theorem prefix_of_byteSize_le {cs ds text : List Char} (hcs : cs <+: text) (hds : ds <+: text)
    (h : byteSize cs ≤ byteSize ds) : cs <+: ds := by
  rcases List.prefix_or_prefix_of_prefix hcs hds with hle | ⟨more, rfl⟩
  · exact hle
  · have hmore : more = [] := by
      by_contra hne
      have hpos := byteSize_pos hne
      rw [byteSize_append] at h
      omega
    simp [hmore]

end LogTail.Text

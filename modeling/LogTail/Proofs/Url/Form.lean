import LogTail.Proofs.Text.Utf8
import LogTail.Url.Percent

/-!
Parameters are read back from the text that they were written to. What separates them, an ampersand or an
equals sign, never stands for itself in a name or value, so the text splits where it was put together;
and in every part a plus sign can only be a blank and a percent sign can only begin an escaped byte.
-/
namespace LogTail.Url

open LogTail.Number LogTail.Text

def formChar (c : Char) : List Char :=
  if c == ' ' then ['+'] else if isFormSafe c then [c] else escapeChar c

def spaced (cs : List Char) : List Char :=
  cs.map fun c => if c == '+' then ' ' else c

def formPart (param : String × String) : List Char :=
  formEncode param.1 ++ '=' :: formEncode param.2

theorem ne_of_isFormSafe {c d : Char} (hc : isFormSafe c = true) (hd : isFormSafe d = false) :
    c ≠ d := by
  rintro rfl
  exact Bool.noConfusion (hc.symm.trans hd)

theorem isFormSafe_hexDigit {n : ℕ} (h : n < 16) : isFormSafe (hexDigit n) = true := by
  have hall : ∀ k : Fin 16, isFormSafe (hexDigit k) = true := by decide
  exact hall ⟨n, h⟩

theorem digit?_hexDigit {n : ℕ} (h : n < 16) : digit? 16 (hexDigit n) = some n := by
  have hall : ∀ k : Fin 16, digit? 16 (hexDigit k) = some k.val := by decide
  exact hall ⟨n, h⟩

theorem spaced_append (xs ys : List Char) : spaced (xs ++ ys) = spaced xs ++ spaced ys :=
  List.map_append

theorem spaced_of_ne {cs : List Char} (h : ∀ c ∈ cs, c ≠ '+') : spaced cs = cs := by
  refine (List.map_congr_left fun c hc => ?_).trans cs.map_id
  exact if_neg (mt beq_iff_eq.mp (h c hc))

theorem percentDecode_cons {c : Char} (h : c ≠ '%') (rest : List Char) :
    percentDecode (c :: rest) = String.utf8EncodeChar c ++ percentDecode rest := by
  rw [percentDecode.eq_def]
  split
  case h_1 heq => exact absurd (List.cons.inj heq).1 h
  case h_2 heq =>
    obtain ⟨rfl, rfl⟩ := List.cons.inj heq
    rfl
  case h_3 heq => cases heq

/-- An escaped byte stands for that byte. -/
theorem percentDecode_escapeByte (b : UInt8) (rest : List Char) :
    percentDecode (escapeByte b ++ rest) = b :: percentDecode rest := by
  have hb : b.toNat < 256 := b.toNat_lt
  have hhigh : digit? 16 (hexDigit (b.toNat / 16)) = some (b.toNat / 16) :=
    digit?_hexDigit (by omega)
  have hlow : digit? 16 (hexDigit (b.toNat % 16)) = some (b.toNat % 16) :=
    digit?_hexDigit (by omega)
  have hbyte : 16 * (b.toNat / 16) + b.toNat % 16 = b.toNat := Nat.div_add_mod _ _
  rw [escapeByte, List.cons_append, List.cons_append, List.cons_append, List.nil_append,
    percentDecode, hhigh, hlow]
  dsimp only
  rw [hbyte, UInt8.ofNat_toNat]

theorem percentDecode_escaped (bytes : List UInt8) (rest : List Char) :
    percentDecode (bytes.flatMap escapeByte ++ rest) = bytes ++ percentDecode rest := by
  induction bytes with
  | nil => rfl
  | cons b bytes ih =>
    rw [List.flatMap_cons, List.append_assoc, percentDecode_escapeByte, ih, List.cons_append]

/-- Only a percent sign and what is safe stands in an escaped character. -/
theorem of_mem_escapeChar {c x : Char} (h : x ∈ escapeChar c) : x = '%' ∨ isFormSafe x = true := by
  obtain ⟨b, -, hx⟩ := List.mem_flatMap.mp h
  have hb : b.toNat < 256 := b.toNat_lt
  simp only [escapeByte, List.mem_cons, List.not_mem_nil, or_false] at hx
  rcases hx with rfl | rfl | rfl
  · exact .inl rfl
  · exact .inr (isFormSafe_hexDigit (by omega))
  · exact .inr (isFormSafe_hexDigit (by omega))

/-- What a character is written as stands for its bytes, once plus signs are blanks. -/
theorem percentDecode_formChar (c : Char) (rest : List Char) :
    percentDecode (spaced (formChar c ++ rest)) =
      String.utf8EncodeChar c ++ percentDecode (spaced rest) := by
  rw [spaced_append, formChar]
  split
  case isTrue hblank =>
    -- the plus sign that is written is taken for a blank before anything else is read
    rw [beq_iff_eq.mp hblank]
    exact percentDecode_cons (by decide) _
  case isFalse =>
    split
    case isTrue hsafe =>
      rw [spaced_of_ne (by simpa using ne_of_isFormSafe hsafe rfl)]
      exact percentDecode_cons (ne_of_isFormSafe hsafe rfl) _
    case isFalse =>
      -- a plus sign of the text itself is among the escaped characters
      have hplus : ∀ x ∈ escapeChar c, x ≠ '+' := by
        intro x hx
        rcases of_mem_escapeChar hx with rfl | hsafe
        · decide
        · exact ne_of_isFormSafe hsafe rfl
      rw [spaced_of_ne hplus, escapeChar, percentDecode_escaped]

theorem percentDecode_formEncode (cs : List Char) :
    percentDecode (spaced (cs.flatMap formChar)) = encodeUtf8 cs := by
  induction cs with
  | nil => rfl
  | cons c rest ih =>
    rw [List.flatMap_cons, percentDecode_formChar, ih, encodeUtf8, encodeUtf8, List.flatMap_cons]

/-- A name or value is read back from what it is written as. -/
theorem formDecode_formEncode (s : String) : formDecode (formEncode s) = s := by
  have hbytes : percentDecode (spaced (formEncode s)) = encodeUtf8 s.toList :=
    percentDecode_formEncode s.toList
  change String.ofList (decodeUtf8 (percentDecode (spaced (formEncode s)))) = s
  rw [hbytes, decodeUtf8_encodeUtf8, String.ofList_toList]

/-- What separates parameters stands in none of their names and values. -/
theorem ne_of_mem_formEncode {s : String} {x d : Char} (h : x ∈ formEncode s)
    (hd : d = '&' ∨ d = '=') : x ≠ d := by
  have hunsafe : isFormSafe d = false := by rcases hd with rfl | rfl <;> rfl
  obtain ⟨c, -, hx⟩ := List.mem_flatMap.mp h
  have hwritten : x = '+' ∨ x = '%' ∨ isFormSafe x = true := by
    split at hx
    case isTrue => exact .inl (List.mem_singleton.mp hx)
    case isFalse =>
      split at hx
      case isTrue hsafe => exact .inr (.inr (List.mem_singleton.mp hx ▸ hsafe))
      case isFalse => exact .inr (of_mem_escapeChar hx)
  rcases hwritten with rfl | rfl | hsafe
  · rcases hd with rfl | rfl <;> decide
  · rcases hd with rfl | rfl <;> decide
  · exact ne_of_isFormSafe hsafe hunsafe

theorem splitAt_ne_nil (d : Char) (cs : List Char) : splitAt d cs ≠ [] := by
  cases cs with
  | nil => exact List.cons_ne_nil _ _
  | cons c rest =>
    rw [splitAt]
    split
    · exact List.cons_ne_nil _ _
    · split <;> exact List.cons_ne_nil _ _

theorem splitAt_cons (d : Char) (rest : List Char) : splitAt d (d :: rest) = [] :: splitAt d rest := by
  obtain ⟨part, parts, hrest⟩ := List.exists_cons_of_ne_nil (splitAt_ne_nil d rest)
  rw [splitAt, hrest]
  exact if_pos rfl

theorem splitAt_cons_of_ne {c d : Char} (h : c ≠ d) {rest part : List Char}
    {parts : List (List Char)} (hrest : splitAt d rest = part :: parts) :
    splitAt d (c :: rest) = (c :: part) :: parts := by
  rw [splitAt, hrest]
  exact if_neg h

/-- A separator is found behind a text that has none. -/
theorem splitAt_append {d : Char} {cs : List Char} (h : ∀ c ∈ cs, c ≠ d) {rest part : List Char}
    {parts : List (List Char)} (hrest : splitAt d rest = part :: parts) :
    splitAt d (cs ++ rest) = (cs ++ part) :: parts := by
  induction cs with
  | nil => exact hrest
  | cons c cs ih =>
    have htail := ih fun x hx => h x (List.mem_cons_of_mem c hx)
    exact splitAt_cons_of_ne (h c List.mem_cons_self) htail

/-- The parts that were put together are found again. -/
theorem splitAt_intercalate {d : Char} {part : List Char} {parts : List (List Char)}
    (h : ∀ p ∈ part :: parts, ∀ c ∈ p, c ≠ d) :
    splitAt d ([d].intercalate (part :: parts)) = part :: parts := by
  -- the parts behind the first are split off before it, as `splitAt` does it
  induction parts generalizing part with
  | nil =>
    have hempty : splitAt d [] = [[]] := rfl
    have hpart := splitAt_append (h part List.mem_cons_self) hempty
    rw [List.append_nil] at hpart
    rw [List.intercalate_singleton]
    exact hpart
  | cons next parts ih =>
    have hnext := ih fun p hp => h p (List.mem_cons_of_mem part hp)
    have hrest := (splitAt_cons d _).trans (congrArg ([] :: ·) hnext)
    have hpart := splitAt_append (h part List.mem_cons_self) hrest
    rw [List.append_nil] at hpart
    rw [List.intercalate_cons_cons, List.append_assoc]
    exact hpart

/-- A parameter is cut at its first equals sign, which is never part of the name. -/
theorem param_of_formPart (param : String × String) :
    (formDecode ((formPart param).takeWhile (· != '=')),
      formDecode (((formPart param).dropWhile (· != '=')).drop 1)) = param := by
  have hname : ∀ c ∈ formEncode param.1, (c != '=') = true := fun c hc =>
    bne_iff_ne.mpr (ne_of_mem_formEncode hc (.inr rfl))
  rw [formPart, List.takeWhile_append_of_pos hname, List.dropWhile_append_of_pos hname]
  simp [formDecode_formEncode]

theorem ne_of_mem_formPart {param : String × String} {c : Char} (h : c ∈ formPart param) :
    c ≠ '&' := by
  rcases List.mem_append.mp h with hname | hvalue
  · exact ne_of_mem_formEncode hname (.inl rfl)
  · rcases List.mem_cons.mp hvalue with rfl | hvalue
    · decide
    · exact ne_of_mem_formEncode hvalue (.inl rfl)

/-- Parameters are read back from their text, whatever characters stand in their names and values. -/
theorem formParams_formText (params : List (String × String)) :
    formParams (formText params) = params := by
  have htext : (formText params).toList = ['&'].intercalate (params.map formPart) :=
    String.toList_ofList
  -- every part has its equals sign, so only the one part of an empty text is left out
  have hsome : ∀ part ∈ params.map formPart, (!part.isEmpty) = true := by
    intro part hpart
    obtain ⟨param, -, rfl⟩ := List.mem_map.mp hpart
    simp [formPart]
  have hwhole : ∀ part ∈ params.map formPart, ∀ c ∈ part, c ≠ '&' := by
    intro part hpart c hc
    obtain ⟨param, -, rfl⟩ := List.mem_map.mp hpart
    exact ne_of_mem_formPart hc
  have hparts : (splitAt '&' (formText params).toList).filter (!·.isEmpty) = params.map formPart := by
    rw [htext]
    cases hall : params.map formPart with
    | nil => rfl
    | cons part parts =>
      rw [hall] at hsome hwhole
      rw [splitAt_intercalate hwhole, List.filter_eq_self.mpr hsome]
  rw [formParams, hparts, List.map_map]
  exact (List.map_congr_left fun param _ => param_of_formPart param).trans params.map_id

example : formText [("level", "warn"), ("since", "2024-05-01T10:00:00.123+0800")] =
    "level=warn&since=2024-05-01T10%3A00%3A00.123%2B0800" := by
  decide

end LogTail.Url

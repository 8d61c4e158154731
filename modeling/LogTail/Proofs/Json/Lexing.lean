import Mathlib.Data.Int.Notation
import Mathlib.Data.List.TakeWhile
import LogTail.Json.Printer
import LogTail.Json.Token
import LogTail.Proofs.Number.Digits

/-!
Written tokens are read back. What a lexer makes of a text does not depend on the tokens it has finished
before; and since every two tokens of a written value have a bracket, a colon or a comma between them, the
pieces of such a text may be lexed one by one.
-/
namespace LogTail.Number

theorem digit?_hexChar {n : ℕ} (h : n < 16) : digit? 16 (Json.hexChar n) = some n := by
  have hall : ∀ k : Fin 16, digit? 16 (Json.hexChar k) = some k.val := by decide
  exact hall ⟨n, h⟩

end LogTail.Number

namespace LogTail.Json

open LogTail.Number

theorem leadingDigits_decimal (n : ℕ) :
    leadingDigits (decimal n) = (decimal n).filterMap (digit? 10) := by
  rw [leadingDigits, List.takeWhile_eq_self_iff.mpr fun c hc => isDigit_of_mem_decimal hc]

theorem afterDigits_decimal (n : ℕ) : afterDigits (decimal n) = [] :=
  List.dropWhile_eq_nil_iff.mpr fun _ hc => isDigit_of_mem_decimal hc

theorem ofDigits_decimal (n : ℕ) : ofDigits 10 (leadingDigits (decimal n)) = n := by
  rw [leadingDigits_decimal, ofDigits, foldl_digits fun c hc => isDigit_of_mem_decimal hc]
  exact Nat.ofDigitChars_ten_toDigits

def integerText (i : ℤ) : NumberText :=
  ⟨decide (i < 0), leadingDigits (decimal i.natAbs), [], none⟩

/-- The decimal digits of a natural number are read as they stand: a zero is alone, and no other
number begins with one. -/
theorem unsignedOf?_decimal (negative : Bool) (n : ℕ) :
    NumberText.unsignedOf? negative (decimal n) =
      some ⟨negative, leadingDigits (decimal n), [], none⟩ := by
  obtain ⟨c, rest, hcs⟩ : ∃ c rest, decimal n = c :: rest :=
    List.exists_cons_of_ne_nil Nat.toDigits_ne_nil
  have hdigit : c.isDigit = true := isDigit_of_mem_decimal (n := n) (by simp [hcs])
  have hdigits : leadingDigits (decimal n) =
      (c.toNat - '0'.toNat) :: rest.filterMap (digit? 10) := by
    rw [leadingDigits_decimal, hcs, List.filterMap_cons_some (digit?_of_isDigit hdigit)]
  have htail (whole : List ℕ) : NumberText.tailOf? negative whole (afterDigits (decimal n)) =
      some ⟨negative, whole, [], none⟩ := by
    rw [afterDigits_decimal]
    rfl
  unfold NumberText.unsignedOf?
  split
  case h_1 hnil => rw [hnil] at hdigits; cases hdigits
  case h_2 d more hzero =>
    have hfirst : c.toNat - '0'.toNat = 0 := (List.cons.inj (hdigits.symm.trans hzero)).1
    -- a zero in front is the only digit
    have hc : c = '0' := by
      have hle : '0'.toNat ≤ c.toNat := (range_of_isDigit hdigit).1
      exact Char.toNat_inj.mp (by omega)
    have hn : n = 0 := eq_zero_of_head?_decimal (by rw [hcs, hc]; rfl)
    have hsingle : leadingDigits (decimal 0) = [0] := rfl
    rw [hn, hsingle] at hzero
    cases hzero
  case h_3 => exact htail _

/-- A printed integer is read as an integer, without fraction and exponent. -/
theorem ofChars?_printInt (i : ℤ) : NumberText.ofChars? (printInt i) = some (integerText i) := by
  rw [printInt, integerText]
  split
  case isTrue hneg => rw [decide_eq_true hneg]; exact unsignedOf?_decimal true i.natAbs
  case isFalse hneg =>
    rw [decide_eq_false hneg, ← unsignedOf?_decimal]
    unfold NumberText.ofChars?
    split
    case h_1 rest heq =>
      have hdigit : '-'.isDigit = true := isDigit_of_mem_decimal (n := i.natAbs) (by simp [heq])
      exact absurd hdigit (by decide)
    case h_2 => rfl

/-- A character as it stands in a written string: controls without an escape of their own are code
units. -/
def writtenPart (c : Char) : StringPart :=
  if c.toNat < 0x20 ∧ c ∉ ['\x08', '\x0c', '\n', '\r', '\t'] then .unit c.toNat else .char c

theorem joinParts_unit {n : ℕ} (h : n < 0xD800) (rest : List StringPart) :
    joinParts (.unit n :: rest) = (joinParts rest).map (Char.ofNat n :: ·) := by
  have hhigh : ¬ (0xD800 ≤ n ∧ n < 0xE000) := by omega
  cases rest with
  | nil => simp only [joinParts, if_neg hhigh]
  | cons part rest =>
    cases part with
    | char c => simp only [joinParts, if_neg hhigh]
    | unit low => rw [joinParts, if_neg (by omega), if_neg hhigh]

/-- The parts of a written string make up its characters: the code units among them are controls,
never surrogates. -/
theorem joinParts_written (cs : List Char) : joinParts (cs.map writtenPart) = some cs := by
  induction cs with
  | nil => rfl
  | cons c rest ih =>
    rw [List.map_cons, writtenPart]
    split
    case isTrue h => rw [joinParts_unit (by omega), ih, Char.ofNat_toNat]; rfl
    case isFalse => rw [joinParts, ih]; rfl

namespace Lexer

/-- One digit of an escape by number; the fourth completes the code unit. -/
theorem unicode_step {c : Char} {n : ℕ} (h : digit? 16 c = some n) (parts : List StringPart)
    (digits : List ℕ) (done : List Token) :
    step ⟨.unicode parts digits, done⟩ c =
      some (if digits.length = 3 then
        ⟨.string (.unit (ofDigits 16 (digits.reverse ++ [n])) :: parts), done⟩
      else ⟨.unicode parts (n :: digits), done⟩) := by
  simp only [step, h, Option.map_some]

/-- A written character is taken as one part of the string. -/
theorem escapeChar_step (c : Char) (parts : List StringPart) (done : List Token) :
    (escapeChar c).foldlM step ⟨.string parts, done⟩ =
      some ⟨.string (writtenPart c :: parts), done⟩ := by
  unfold escapeChar
  -- the escapes of two characters
  iterate 7
    split
    · subst c
      rfl
  split
  case isTrue hcontrol =>
    have hpart : writtenPart c = .unit c.toNat := if_pos ⟨hcontrol, by simp_all⟩
    have hhigh : digit? 16 (hexChar (c.toNat / 16)) = some (c.toNat / 16) :=
      digit?_hexChar (by omega)
    have hlow : digit? 16 (hexChar (c.toNat % 16)) = some (c.toNat % 16) :=
      digit?_hexChar (by omega)
    have hzero : digit? 16 '0' = some 0 := by decide
    have hunit : ofDigits 16 [0, 0, c.toNat / 16, c.toNat % 16] = c.toNat := by
      simp only [ofDigits, List.foldl_cons, List.foldl_nil]
      omega
    have hescape : step ⟨.string parts, done⟩ '\\' = some ⟨.escape parts, done⟩ := rfl
    have hunicode : step ⟨.escape parts, done⟩ 'u' = some ⟨.unicode parts [], done⟩ := rfl
    simp [List.foldlM_cons, hescape, hunicode, unicode_step hzero, unicode_step hhigh,
      unicode_step hlow, hunit, hpart]
  case isFalse hcontrol =>
    have hpart : writtenPart c = .char c := if_neg fun h => hcontrol h.1
    have hstep : step ⟨.string parts, done⟩ c = some ⟨.string (.char c :: parts), done⟩ := by
      simp_all [step]
    rw [hpart, List.foldlM_cons, hstep]
    rfl

theorem step_quote (parts : List StringPart) (done : List Token) :
    step ⟨.string parts, done⟩ '"' =
      some ⟨.between, .string ((joinParts parts.reverse).map String.ofList) :: done⟩ :=
  rfl

/-- Inside a string the escaped characters of a text are taken one by one, by induction on the text.
-/
theorem string_steps (cs : List Char) (parts : List StringPart) (done : List Token) :
    (cs.flatMap escapeChar).foldlM step ⟨.string parts, done⟩ =
      some ⟨.string ((cs.map writtenPart).reverse ++ parts), done⟩ := by
  induction cs generalizing parts with
  | nil => rfl
  | cons c rest ih =>
    rw [List.flatMap_cons, List.foldlM_append, escapeChar_step, Option.bind_eq_bind, Option.bind_some,
      ih, List.map_cons, List.reverse_cons, List.append_assoc, List.singleton_append]

theorem begin_number {c : Char} (h : c = '-' ∨ c.isDigit = true) (done : List Token) :
    begin ⟨.between, done⟩ c = some ⟨.number [c], done⟩ := by
  rcases h with rfl | hdigit
  · rfl
  · have hne {d : Char} (hd : d.isDigit = false) : c ≠ d := by
      rintro rfl
      exact Bool.noConfusion (hdigit.symm.trans hd)
    have hblank : isJsonBlank c = false := by
      simp [isJsonBlank, hne (d := ' ') rfl, hne (d := '\n') rfl, hne (d := '\r') rfl,
        hne (d := '\t') rfl]
    simp [begin, hblank, hne (d := '"') rfl, hdigit]

/-- Inside a number its characters are kept. -/
theorem number_steps {cs : List Char} (h : ∀ c ∈ cs, isNumberChar c = true) (text : List Char)
    (done : List Token) :
    cs.foldlM step ⟨.number text, done⟩ = some ⟨.number (cs.reverse ++ text), done⟩ := by
  induction cs generalizing text with
  | nil => rfl
  | cons c rest ih =>
    have hstep : step ⟨.number text, done⟩ c = some ⟨.number (c :: text), done⟩ :=
      if_pos (h c List.mem_cons_self)
    rw [List.foldlM_cons, hstep, Option.bind_eq_bind, Option.bind_some,
      ih fun d hd => h d (List.mem_cons_of_mem c hd), List.reverse_cons, List.append_assoc,
      List.singleton_append]

theorem close_number {text : List Char} {n : NumberText}
    (h : NumberText.ofChars? text.reverse = some n) (done : List Token) :
    close ⟨.number text, done⟩ = some ⟨.between, .number n :: done⟩ := by
  simp only [close, h, Option.map_some]

/-- A sign is part of no number and no word, and a token by itself. -/
theorem begin_punctuation {c : Char} {t : Token} (hc : punctuation? c = some t) (l : Lexer) :
    isNumberChar c = false ∧ ¬ ('a' ≤ c ∧ c ≤ 'z') ∧ l.begin c = some ⟨.between, t :: l.tokens⟩ := by
  unfold punctuation? at hc
  iterate 6
    split at hc
    · subst c
      cases hc
      exact ⟨rfl, by decide, rfl⟩
  cases hc

/-- A bracket, colon or comma ends the number or word before it and is a token of its own. -/
theorem step_punctuation {l m : Lexer} {c : Char} {t : Token} (hclose : l.close = some m)
    (hc : punctuation? c = some t) : l.step c = some ⟨.between, t :: m.tokens⟩ := by
  obtain ⟨hnumber, hword, hbegin⟩ := begin_punctuation hc m
  obtain ⟨mode, done⟩ := l
  cases mode with
  | between =>
    cases hclose
    exact hbegin
  | number text =>
    have hstep : step ⟨.number text, done⟩ c = (close ⟨.number text, done⟩).bind (·.begin c) :=
      if_neg (by simp [hnumber])
    rw [hstep, hclose, Option.bind_some, hbegin]
  | word text =>
    have hstep : step ⟨.word text, done⟩ c = (close ⟨.word text, done⟩).bind (·.begin c) :=
      if_neg hword
    rw [hstep, hclose, Option.bind_some, hbegin]
  | string => cases hclose
  | escape => cases hclose
  | unicode => cases hclose

end Lexer

/-- The tokens of a text, whatever stands before it. -/
def Lexes (cs : List Char) (ts : List Token) : Prop :=
  ∀ done, ∃ l : Lexer, cs.foldlM Lexer.step ⟨.between, done⟩ = some l ∧
    l.close = some ⟨.between, ts.reverse ++ done⟩

namespace Lexes

variable {cs ds : List Char} {ts us : List Token}

theorem tokens? (h : Lexes cs ts) : tokens? cs = some ts := by
  obtain ⟨l, hsteps, hclose⟩ := h []
  rw [Json.tokens?, Lexer.start, hsteps, Option.bind_some, hclose, Option.map_some, List.append_nil,
    List.reverse_reverse]

theorem nil : Lexes [] [] :=
  fun done => ⟨⟨.between, done⟩, rfl, rfl⟩

/-- A sign in front of a text is one more token. -/
theorem cons {c : Char} {t : Token} (hc : punctuation? c = some t) (h : Lexes cs ts) :
    Lexes (c :: cs) (t :: ts) := by
  intro done
  obtain ⟨l, hsteps, hclose⟩ := h (t :: done)
  refine ⟨l, ?_, by rw [hclose, List.reverse_cons, List.append_assoc, List.singleton_append]⟩
  have hstep : Lexer.step ⟨.between, done⟩ c = some ⟨.between, t :: done⟩ :=
    Lexer.step_punctuation (l := ⟨.between, done⟩) rfl hc
  rw [List.foldlM_cons, hstep, Option.bind_eq_bind, Option.bind_some, hsteps]

/-- Two texts may be put together if the second begins with a bracket, colon or comma. -/
theorem append (h : Lexes cs ts) (h' : Lexes ds us)
    (hd : ∀ c ∈ ds.head?, (punctuation? c).isSome) : Lexes (cs ++ ds) (ts ++ us) := by
  intro done
  obtain ⟨l, hsteps, hclose⟩ := h done
  obtain ⟨m, hsteps', hclose'⟩ := h' (ts.reverse ++ done)
  cases ds with
  | nil =>
    -- there is nothing to end what the first text leaves open
    cases hsteps'
    refine ⟨l, by rw [List.append_nil, hsteps], ?_⟩
    rw [hclose, List.reverse_append, List.append_assoc]
    exact hclose'
  | cons c rest =>
    obtain ⟨t, ht⟩ := Option.isSome_iff_exists.mp (hd c rfl)
    have hafter : l.step c = Lexer.step ⟨.between, ts.reverse ++ done⟩ c :=
      (Lexer.step_punctuation hclose ht).trans
        (Lexer.step_punctuation (l := ⟨.between, ts.reverse ++ done⟩) rfl ht).symm
    refine ⟨m, ?_, by rw [hclose', List.reverse_append, List.append_assoc]⟩
    rw [List.foldlM_append, hsteps, Option.bind_eq_bind, Option.bind_some, List.foldlM_cons, hafter,
      ← List.foldlM_cons, hsteps']

theorem null : Lexes ['n', 'u', 'l', 'l'] [.null] :=
  fun _ => ⟨_, rfl, rfl⟩

theorem bool (b : Bool) : Lexes (Value.bool b).print [.bool b] := by
  intro done
  cases b with
  | false => exact ⟨_, rfl, rfl⟩
  | true => exact ⟨_, rfl, rfl⟩

/-- A printed integer is one token. -/
theorem integer (i : ℤ) : Lexes (printInt i) [.number (integerText i)] := by
  intro done
  obtain ⟨c, rest, hcs⟩ : ∃ c rest, printInt i = c :: rest := by
    rw [printInt]
    split
    · exact ⟨_, _, rfl⟩
    · exact List.exists_cons_of_ne_nil Nat.toDigits_ne_nil
  have hchars : ∀ d ∈ c :: rest, d = '-' ∨ d.isDigit = true := by
    rw [← hcs, printInt]
    intro d hd
    split at hd
    · exact (List.mem_cons.mp hd).imp_right isDigit_of_mem_decimal
    · exact .inr (isDigit_of_mem_decimal hd)
  have hnumber : ∀ d ∈ rest, isNumberChar d = true := by
    intro d hd
    rcases hchars d (List.mem_cons_of_mem c hd) with rfl | hdigit
    · rfl
    · simp [isNumberChar, hdigit]
  have hbegin : Lexer.step ⟨.between, done⟩ c = some ⟨.number [c], done⟩ :=
    Lexer.begin_number (hchars c List.mem_cons_self) done
  refine ⟨⟨.number (rest.reverse ++ [c]), done⟩, ?_, ?_⟩
  · rw [hcs, List.foldlM_cons, hbegin, Option.bind_eq_bind, Option.bind_some,
      Lexer.number_steps hnumber]
  · have htext : (rest.reverse ++ [c]).reverse = printInt i := by simp [hcs]
    exact Lexer.close_number (by rw [htext, ofChars?_printInt]) done

/-- A printed string is one token, whose content is the string. -/
theorem string (s : String) : Lexes (printString s) [.string (some s)] := by
  intro done
  refine ⟨⟨.between, .string (some s) :: done⟩, ?_, rfl⟩
  have hopen : Lexer.step ⟨.between, done⟩ '"' = some ⟨.string [], done⟩ := rfl
  rw [printString, List.cons_append, List.foldlM_cons, hopen, Option.bind_eq_bind, Option.bind_some,
    List.foldlM_append, Lexer.string_steps, Option.bind_eq_bind, Option.bind_some, List.foldlM_cons,
    Lexer.step_quote, List.append_nil, List.reverse_reverse, joinParts_written, Option.map_some,
    String.ofList_toList]
  rfl

end Lexes

end LogTail.Json

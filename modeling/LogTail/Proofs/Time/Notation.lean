import Mathlib.Data.Int.Notation
import LogTail.Proofs.Number.Digits
import LogTail.Time.Stamp

/-!
The notations of a date and time of day. Each is read to the date and time it was written from: with
a Z or a colon in its offset by the reader of the standard notation, with an offset that has no
colon by the looser reader. A standard offset is read the same by both.
-/
namespace LogTail.Time

open LogTail.Number

theorem takeDigits_zero (cs : List Char) : takeDigits (some 0) cs = ([], cs) := by
  cases cs with
  | nil => rfl
  | cons c rest =>
    simp only [takeDigits]
    cases digit? 10 c <;> rfl

theorem takeDigits_of_head? {cs : List Char} (h : ∀ c ∈ cs.head?, digit? 10 c = none)
    (most : Option ℕ) : takeDigits most cs = ([], cs) := by
  cases cs with
  | nil => rfl
  | cons c rest =>
    have hc : digit? 10 c = none := h c rfl
    simp only [takeDigits, hc]

theorem takeDigits_cons {most : Option ℕ} {c : Char} {d : ℕ} (hc : digit? 10 c = some d)
    (hmost : most ≠ some 0) (rest : List Char) :
    takeDigits most (c :: rest) =
      (d :: (takeDigits (most.map (· - 1)) rest).1, (takeDigits (most.map (· - 1)) rest).2) := by
  simp only [takeDigits, hc]

/-- The digits are taken to where the limit is, or to where there are no more. -/
theorem takeDigits_append {most : Option ℕ} {ds rest : List Char}
    (hds : ∀ c ∈ ds, c.isDigit = true)
    (hstop : most = some ds.length ∨ most = none ∧ ∀ c ∈ rest.head?, digit? 10 c = none) :
    takeDigits most (ds ++ rest) = (ds.filterMap (digit? 10), rest) := by
  induction ds generalizing most with
  | nil =>
    rcases hstop with rfl | ⟨rfl, hrest⟩
    · exact takeDigits_zero rest
    · exact takeDigits_of_head? hrest none
  | cons c ds ih =>
    obtain ⟨hc, hds⟩ := List.forall_mem_cons.mp hds
    have hdigit := digit?_of_isDigit hc
    have hgo : most ≠ some 0 := by
      rcases hstop with rfl | ⟨rfl, -⟩ <;> simp
    have hstop' : most.map (· - 1) = some ds.length ∨
        most.map (· - 1) = none ∧ ∀ c ∈ rest.head?, digit? 10 c = none := by
      rcases hstop with rfl | ⟨rfl, hrest⟩
      · exact .inl rfl
      · exact .inr ⟨rfl, hrest⟩
    rw [List.cons_append, takeDigits_cons hdigit hgo, ih hds hstop',
      List.filterMap_cons_some hdigit]

theorem length_filterMap_digit? {ds : List Char} (hds : ∀ c ∈ ds, c.isDigit = true) :
    (ds.filterMap (digit? 10)).length = ds.length := by
  rw [List.length_filterMap_eq_countP, List.countP_eq_length]
  intro c hc
  rw [digit?_of_isDigit (hds c hc)]
  rfl

/-- A number in a fixed number of places is read back, whatever follows it. -/
theorem number_padded {least k n : ℕ} (hk : 0 < k) (hleast : least ≤ k) (hn : n < Nat.pow 10 k)
    (rest : List Char) : number least (some k) (padded k n ++ rest) = some (n, rest) := by
  have hdigits : ∀ c ∈ padded k n, c.isDigit = true := fun c hc => isDigit_of_mem_padded hc
  have hlength := length_padded hk hn
  have htake : takeDigits (some k) (padded k n ++ rest) = ((padded k n).filterMap (digit? 10), rest) :=
    takeDigits_append hdigits (.inl (congrArg some hlength.symm))
  simp only [number, htake, length_filterMap_digit? hdigits, hlength, ofDigits_padded,
    if_neg (Nat.not_lt.mpr hleast)]

theorem number_four {n : ℕ} (hn : n < 10000) (rest : List Char) :
    number 4 (some 4) (padded 4 n ++ rest) = some (n, rest) :=
  number_padded (by decide) (Nat.le_refl 4) hn rest

theorem number_two {n : ℕ} (hn : n < 100) (rest : List Char) :
    number 2 (some 2) (padded 2 n ++ rest) = some (n, rest) :=
  number_padded (by decide) (Nat.le_refl 2) hn rest

theorem isBlank_of_isDigit {c : Char} (h : c.isDigit = true) : Text.isBlank c = false := by
  obtain ⟨hlow, hhigh⟩ := range_of_isDigit h
  have hlow : 48 ≤ c.toNat := hlow
  have hhigh : c.toNat ≤ 57 := hhigh
  simp [Text.isBlank, Text.CharSet.contains, Text.whiteSpace, Text.CharSet.covers]
  omega

theorem trimStart_padded (k n : ℕ) (rest : List Char) :
    Text.trimStart (padded k n ++ rest) = padded k n ++ rest := by
  obtain ⟨c, cs, hcs, hc⟩ := padded_eq_cons k n
  rw [hcs]
  exact List.dropWhile_cons_of_neg (by rw [isBlank_of_isDigit hc]; decide)

theorem looseNumber_padded {n : ℕ} (hn : n < 100) (rest : List Char) :
    looseNumber (padded 2 n ++ rest) = some (n, rest) := by
  rw [looseNumber, trimStart_padded, number_padded (by decide) (by decide) hn]

/-- A year of four digits is read back in the looser notation. -/
theorem looseYear_padded {n : ℕ} (hn : n < 10000) (rest : List Char) :
    looseYear (padded 4 n ++ rest) = some ((n : ℤ), rest) := by
  have hread : number 1 (some 4) (padded 4 n ++ rest) = some (n, rest) :=
    number_padded (by decide) (by decide) hn rest
  obtain ⟨c, cs, hcs, hc⟩ := padded_eq_cons 4 n
  have hsign : ∀ {d : Char} {r : List Char}, padded 4 n ++ rest = d :: r → d.isDigit = true := by
    intro d r heq
    rw [hcs, List.cons_append, List.cons_eq_cons] at heq
    exact heq.1 ▸ hc
  rw [looseYear, trimStart_padded]
  split
  case h_1 heq => exact absurd (hsign heq) (by decide)
  case h_2 heq => exact absurd (hsign heq) (by decide)
  case h_3 =>
    rw [hread]
    rfl

theorem oneOf_cons {wanted : List Char} {c : Char} (h : wanted.contains c = true)
    (rest : List Char) : oneOf wanted (c :: rest) = some (c, rest) :=
  if_pos h

theorem oneOf_singleton (c : Char) (rest : List Char) : oneOf [c] (c :: rest) = some (c, rest) :=
  oneOf_cons (List.elem_cons_self) rest

theorem oneOf_cons_of_not {wanted : List Char} {c : Char} (h : wanted.contains c = false)
    (rest : List Char) : oneOf wanted (c :: rest) = none :=
  if_neg (ne_true_of_eq_false h)

theorem oneOf_padded {wanted : List Char} (h : ∀ c ∈ wanted, c.isDigit = false) (k n : ℕ) :
    oneOf wanted (padded k n) = none := by
  obtain ⟨c, cs, hcs, hc⟩ := padded_eq_cons k n
  rw [hcs, oneOf_cons_of_not]
  refine Bool.eq_false_iff.mpr fun hmem => ?_
  have hno := h c (List.mem_of_elem_eq_true hmem)
  rw [hc] at hno
  exact Bool.noConfusion hno

/-- A colon before digits is read if there is one. -/
theorem oneOf_colon_padded (colon : Bool) (k n : ℕ) :
    (oneOf [':'] ((if colon then [':'] else []) ++ padded k n)).map (·.2) =
      if colon then some (padded k n) else none := by
  cases colon with
  | true => rfl
  | false =>
    rw [if_neg (by decide), List.nil_append, oneOf_padded (List.forall_mem_singleton.mpr rfl)]
    rfl

/-- A colon before digits is skipped, whether there is one or not. -/
theorem dropWhile_colon_padded (colon : Bool) (k n : ℕ) :
    (((if colon then [':'] else []) ++ padded k n).dropWhile fun c => c == ':' || Text.isBlank c) =
      padded k n := by
  obtain ⟨c, cs, hcs, hc⟩ := padded_eq_cons k n
  have hstop : (c == ':' || Text.isBlank c) = false := by
    rw [isBlank_of_isDigit hc, Bool.or_false, beq_eq_false_iff_ne]
    rintro rfl
    exact absurd hc (by decide)
  have hdigits : (padded k n).dropWhile (fun c => c == ':' || Text.isBlank c) = padded k n := by
    rw [hcs, List.dropWhile_cons_of_neg (by rw [hstop]; decide)]
  cases colon <;> exact hdigits

/-- A step of reading that succeeds hands what it has read and the rest of the text on. -/
theorem bind_read {α β : Type} {read : Reader α} {cs rest : List Char} {a : α}
    (h : read cs = some (a, rest)) (f : α × List Char → Option β) :
    (read cs >>= f) = f (a, rest) := by
  rw [h]
  rfl

/-- How the distance of local time from universal time is written: as a Z, or in hours and
minutes, which a colon may separate. -/
inductive Zone
  | universal (small : Bool)
  | numeric (ahead : Bool) (hours : Fin 24) (minutes : Fin 60) (colon : Bool)
  deriving DecidableEq, Repr

namespace Zone

def isStandard : Zone → Bool
  | universal _ => true
  | numeric _ _ _ colon => colon

def isNumeric : Zone → Bool
  | universal _ => false
  | numeric .. => true

def minutesAhead : Zone → ℤ
  | universal _ => 0
  | numeric ahead hours minutes _ =>
    let total : ℤ := hours.val * 60 + minutes.val
    if ahead then total else -total

def chars : Zone → List Char
  | universal small => [if small then 'z' else 'Z']
  | numeric ahead hours minutes colon =>
    (if ahead then '+' else '-') :: padded 2 hours ++ (if colon then [':'] else []) ++
      padded 2 minutes

end Zone

/-- A date of the calendar and a time of day with seconds below 60, as they are written. -/
structure DateTime where
  year : Fin 10000
  month : ℕ
  day : ℕ
  hour : Fin 24
  minute : Fin 60
  second : Fin 60
  fraction : List (Fin 10)
  zone : Zone
  separator : Char
  month_range : 1 ≤ month ∧ month ≤ 12
  day_range : 1 ≤ day ∧ day ≤ daysInMonth year month
  separator_mem : separator = 'T' ∨ zone.isStandard = true ∧ separator ∈ ['t', ' ']

def fractionChars (ds : List (Fin 10)) : List Char :=
  if ds.isEmpty then [] else '.' :: ds.map fun d => Nat.digitChar d.val

namespace DateTime

def nanosecond (t : DateTime) : ℕ :=
  ofDigits 10 ((t.fraction.map Fin.val ++ List.replicate 9 0).take 9)

def stamp (t : DateTime) : Stamp :=
  ⟨t.year, t.month, t.day, t.hour, t.minute, t.second, t.nanosecond, t.zone.minutesAhead⟩

def chars (t : DateTime) : List Char :=
  padded 4 t.year.val ++ '-' :: padded 2 t.month ++ '-' :: padded 2 t.day ++ t.separator ::
    padded 2 t.hour.val ++ ':' :: padded 2 t.minute.val ++ ':' :: padded 2 t.second.val ++
    fractionChars t.fraction ++ t.zone.chars

/-- The text of a date and time, field by field. -/
theorem chars_eq (t : DateTime) :
    t.chars = padded 4 t.year.val ++ ('-' :: (padded 2 t.month ++ ('-' :: (padded 2 t.day ++
      (t.separator :: (padded 2 t.hour.val ++ (':' :: (padded 2 t.minute.val ++
        (':' :: (padded 2 t.second.val ++ (fractionChars t.fraction ++ t.zone.chars))))))))))) := by
  simp only [chars, List.append_assoc, List.cons_append]

def text (t : DateTime) : String :=
  String.ofList t.chars

end DateTime

theorem digitChar_facts (d : Fin 10) :
    (Nat.digitChar d.val).isDigit = true ∧ digit? 10 (Nat.digitChar d.val) = some d.val := by
  revert d
  decide

theorem filterMap_digitChar (ds : List (Fin 10)) :
    (ds.map fun d => Nat.digitChar d.val).filterMap (digit? 10) = ds.map Fin.val := by
  induction ds with
  | nil => rfl
  | cons d ds ih => rw [List.map_cons, List.filterMap_cons_some (digitChar_facts d).2, ih, List.map_cons]

/-- The fraction is read up to its ninth digit, with zeros for those that are missing. -/
theorem fraction_append (ds : List (Fin 10)) {rest : List Char}
    (hrest : ∀ c ∈ rest.head?, c ≠ '.' ∧ digit? 10 c = none) :
    fraction (fractionChars ds ++ rest) =
      some (ofDigits 10 ((ds.map Fin.val ++ List.replicate 9 0).take 9), rest) := by
  cases ds with
  | nil =>
    show fraction rest = some (0, rest)
    rw [fraction.eq_def]
    split
    case h_1 => exact absurd rfl (hrest '.' rfl).1
    case h_2 => rfl
  | cons d ds =>
    have hdigits : ∀ c ∈ (d :: ds).map fun d => Nat.digitChar d.val, c.isDigit = true := by
      simp only [List.forall_mem_map]
      exact fun d _ => (digitChar_facts d).1
    have htake : takeDigits none (((d :: ds).map fun d => Nat.digitChar d.val) ++ rest) =
        ((d :: ds).map Fin.val, rest) := by
      rw [takeDigits_append hdigits (.inr ⟨rfl, fun c hc => (hrest c hc).2⟩), filterMap_digitChar]
    show fraction ('.' :: (((d :: ds).map fun d => Nat.digitChar d.val) ++ rest)) = _
    simp only [fraction, htake]
    rfl

/-- No zone begins like a fraction or one more digit. -/
theorem Zone.head?_chars (z : Zone) (c : Char) (hc : c ∈ z.chars.head?) :
    c ≠ '.' ∧ digit? 10 c = none := by
  cases z with
  | universal small =>
    cases small <;> (obtain rfl := Option.some.inj hc; decide)
  | numeric ahead hours minutes colon =>
    cases ahead <;> (obtain rfl := Option.some.inj hc; decide)

theorem Zone.natAbs_minutesAhead_lt (z : Zone) : z.minutesAhead.natAbs < minutesPerDay.natAbs := by
  cases z with
  | universal small => exact Nat.zero_lt_succ 1439
  | numeric ahead hours minutes colon =>
    have hhours := hours.isLt
    have hminutes := minutes.isLt
    simp only [Zone.minutesAhead, minutesPerDay]
    split <;> omega

/-- A numeric offset is read if what stands between its parts is skipped. -/
theorem offset_numeric {separate : List Char → Option (List Char)} {colon skips : Bool}
    {minutes : Fin 60} (hseparate : separate ((if colon then [':'] else []) ++ padded 2 minutes.val) =
      if skips then some (padded 2 minutes.val) else none) (ahead : Bool) (hours : Fin 24) :
    offset separate (Zone.numeric ahead hours minutes colon).chars =
      if skips then some ((Zone.numeric ahead hours minutes colon).minutesAhead, []) else none := by
  have hhours : hours.val < 100 := Nat.lt_trans hours.isLt (by decide)
  have hminutes : minutes.val < 100 := Nat.lt_trans minutes.isLt (by decide)
  have hlast := number_two hminutes []
  rw [List.append_nil] at hlast
  have hsign : oneOf ['+', '-', '−'] (Zone.numeric ahead hours minutes colon).chars =
      some (if ahead then '+' else '-',
        padded 2 hours.val ++ ((if colon then [':'] else []) ++ padded 2 minutes.val)) := by
    rw [← List.append_assoc]
    exact oneOf_cons (by cases ahead <;> decide) _
  simp only [offset, hsign, Option.bind_eq_bind, Option.bind_some,
    number_two hhours, hseparate]
  cases skips with
  | false => rfl
  | true =>
    simp only [if_true, Option.bind_some, hlast, if_neg (Nat.not_le.mpr minutes.isLt)]
    cases ahead <;> rfl

namespace DateTime

theorem daysInMonth_le (year : ℤ) (month : ℕ) : daysInMonth year month ≤ 31 := by
  simp only [daysInMonth]
  repeat' split
  all_goals decide

theorem bounds (t : DateTime) :
    t.month < 100 ∧ t.day < 100 ∧ t.hour.val < 100 ∧ t.minute.val < 100 ∧ t.second.val < 100 := by
  have hmonth := t.month_range.2
  have hday := t.day_range.2
  have hdays := daysInMonth_le t.year.val t.month
  omega

/-- A date of the calendar is valid however its zone is written. -/
theorem isValid_stamp (t : DateTime) : t.stamp.isValid = true := by
  have hfirst : firstYear < t.stamp.year := Int.lt_of_lt_of_le (by decide) (Int.natCast_nonneg _)
  have hlast : t.stamp.year < lastYear := by
    have hyear := t.year.isLt
    show (t.year.val : ℤ) < 262142
    omega
  simp only [Stamp.isValid, Bool.and_eq_true, decide_eq_true_eq, Bool.not_eq_true',
    Bool.and_eq_false_iff, beq_eq_false_iff_ne]
  exact ⟨⟨⟨⟨⟨⟨⟨⟨⟨⟨⟨Int.le_of_lt hfirst, Int.le_of_lt hlast⟩, t.month_range.1⟩, t.month_range.2⟩,
    t.day_range.1⟩, t.day_range.2⟩, Nat.le_of_lt_succ t.hour.isLt⟩, Nat.le_of_lt_succ t.minute.isLt⟩,
    Nat.le_of_lt t.second.isLt⟩, t.zone.natAbs_minutesAhead_lt⟩,
    .inl (.inl (.inr (Int.ne_of_gt hfirst)))⟩, .inl (.inl (.inr (Int.ne_of_lt hlast)))⟩

/-- The standard notation has a date and time if and only if it has the zone, and reads what was
written. -/
theorem standard?_chars (t : DateTime) :
    standard? t.chars = if t.zone.isStandard then some t.stamp else none := by
  obtain ⟨hmonth, hday, hhour, hminute, hsecond⟩ := t.bounds
  have hvalid := t.isValid_stamp
  have hseparator : ['T', 't', ' '].contains t.separator = true := by
    rcases t.separator_mem with h | ⟨-, h⟩
    · rw [h]
      decide
    · exact List.elem_eq_true_of_mem (List.mem_cons_of_mem _ h)
  -- one step for each field and for each sign between fields
  rw [chars_eq, standard?]
  refine (bind_read (number_four t.year.isLt _) _).trans ?_
  refine (bind_read (oneOf_singleton _ _) _).trans ?_
  refine (bind_read (number_two hmonth _) _).trans ?_
  refine (bind_read (oneOf_singleton _ _) _).trans ?_
  refine (bind_read (number_two hday _) _).trans ?_
  refine (bind_read (oneOf_cons hseparator _) _).trans ?_
  refine (bind_read (number_two hhour _) _).trans ?_
  refine (bind_read (oneOf_singleton _ _) _).trans ?_
  refine (bind_read (number_two hminute _) _).trans ?_
  refine (bind_read (oneOf_singleton _ _) _).trans ?_
  refine (bind_read (number_two hsecond _) _).trans ?_
  refine (bind_read (fraction_append t.fraction t.zone.head?_chars) _).trans ?_
  dsimp only
  cases hzone : t.zone with
  | universal small =>
    have hletter : oneOf ['Z', 'z'] (Zone.universal small).chars =
        some (if small then 'z' else 'Z', []) := oneOf_cons (by cases small <;> decide) []
    rw [stamp, hzone] at hvalid
    rw [hletter, stamp, hzone]
    exact if_pos hvalid
  | numeric ahead hours minutes colon =>
    have hletter : oneOf ['Z', 'z'] (Zone.numeric ahead hours minutes colon).chars = none := by
      cases ahead <;> rfl
    rw [hletter, offset_numeric (oneOf_colon_padded colon 2 minutes.val)]
    cases colon with
    | true =>
      rw [stamp, hzone] at hvalid
      rw [stamp, hzone]
      exact if_pos hvalid
    | false => rfl

/-- The looser notation has a date and time if and only if its offset is numeric and stands behind a
capital T, and reads what was written. -/
theorem loose?_chars (t : DateTime) :
    loose? t.chars = if t.separator = 'T' ∧ t.zone.isNumeric then some t.stamp else none := by
  obtain ⟨hmonth, hday, hhour, hminute, hsecond⟩ := t.bounds
  have hvalid := t.isValid_stamp
  rw [chars_eq, loose?]
  refine (bind_read (looseYear_padded t.year.isLt _) _).trans ?_
  refine (bind_read (oneOf_singleton _ _) _).trans ?_
  refine (bind_read (looseNumber_padded hmonth _) _).trans ?_
  refine (bind_read (oneOf_singleton _ _) _).trans ?_
  refine (bind_read (looseNumber_padded hday _) _).trans ?_
  -- a separator that is no capital T ends the reading before the time of day
  by_cases hseparator : t.separator = 'T'
  case neg =>
    have hmark : ['T'].contains t.separator = false := by
      simpa using hseparator
    dsimp only
    rw [oneOf_cons_of_not hmark, if_neg fun h => hseparator h.1]
    rfl
  rw [hseparator]
  refine (bind_read (oneOf_singleton _ _) _).trans ?_
  refine (bind_read (looseNumber_padded hhour _) _).trans ?_
  refine (bind_read (oneOf_singleton _ _) _).trans ?_
  refine (bind_read (looseNumber_padded hminute _) _).trans ?_
  refine (bind_read (oneOf_singleton _ _) _).trans ?_
  refine (bind_read (looseNumber_padded hsecond _) _).trans ?_
  refine (bind_read (fraction_append t.fraction t.zone.head?_chars) _).trans ?_
  dsimp only
  cases hzone : t.zone with
  | universal small =>
    cases small <;> rfl
  | numeric ahead hours minutes colon =>
    -- no blank stands before the sign, and after the hours the colon is skipped if there is one
    have htrim : Text.trimStart (Zone.numeric ahead hours minutes colon).chars =
        (Zone.numeric ahead hours minutes colon).chars := by
      cases ahead <;> rfl
    have hskip : some (((if colon then [':'] else []) ++ padded 2 minutes.val).dropWhile
        fun c => c == ':' || Text.isBlank c) =
          if true then some (padded 2 minutes.val) else none :=
      congrArg some (dropWhile_colon_padded colon 2 minutes.val)
    rw [htrim, offset_numeric hskip]
    rw [stamp, hzone] at hvalid
    rw [stamp, hzone]
    exact if_pos hvalid

/-- Every notation is read to what was written. -/
theorem parse?_text (t : DateTime) : Stamp.parse? t.text = some t.stamp := by
  rw [Stamp.parse?, text, String.toList_ofList, standard?_chars]
  cases hstandard : t.zone.isStandard with
  | true => rfl
  | false =>
    have hseparator : t.separator = 'T' := by
      refine t.separator_mem.resolve_right fun h => ?_
      exact Bool.noConfusion (hstandard.symm.trans h.1)
    have hnumeric : t.zone.isNumeric = true := by
      cases hzone : t.zone with
      | universal small =>
        rw [hzone] at hstandard
        exact Bool.noConfusion hstandard
      | numeric ahead hours minutes colon => rfl
    simp only [loose?_chars, if_pos (And.intro hseparator hnumeric)]
    rfl

end DateTime

end LogTail.Time

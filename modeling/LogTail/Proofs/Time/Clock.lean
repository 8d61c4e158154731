import Mathlib.Data.Rat.Floor
import Mathlib.Tactic.Linarith
import LogTail.Proofs.Time.Notation

/-!
The time of day a timestamp is shown as. It is the one in universal time of the moment that the
timestamp names, whichever notation names it, and what is below a millisecond is cut off.
-/
namespace LogTail.Time

open LogTail.Number

def daysBeforeMonth (year : ℕ) : ℕ → ℕ
  | 0 => 0
  | 1 => 0
  | month + 2 => daysBeforeMonth year (month + 1) + daysInMonth year (month + 1)

def daysBeforeYear : ℕ → ℕ
  | 0 => 0
  | year + 1 => daysBeforeYear year + daysBeforeMonth year 13

def clockAt (milliseconds : ℤ) : String :=
  let t := (milliseconds % 86400000).toNat
  String.ofList (padded 2 (t / 3600000) ++ ':' :: padded 2 (t / 60000 % 60) ++ ':' ::
    padded 2 (t / 1000 % 60) ++ '.' :: padded 3 (t % 1000))

theorem clockAt_add_days (milliseconds days : ℤ) :
    clockAt (milliseconds + 86400000 * days) = clockAt milliseconds := by
  rw [clockAt, clockAt, Int.add_mul_emod_self_left]

namespace DateTime

def fractionOfSecond (t : DateTime) : ℚ :=
  (ofDigits 10 (t.fraction.map Fin.val) : ℚ) / (Nat.pow 10 t.fraction.length : ℕ)

def wholeSeconds (t : DateTime) : ℤ :=
  t.hour.val * 3600 + t.minute.val * 60 + t.second.val - t.zone.minutesAhead * 60

def timeOfDay (t : DateTime) : ℚ :=
  t.wholeSeconds + t.fractionOfSecond

def dayNumber (t : DateTime) : ℕ :=
  daysBeforeYear t.year.val + daysBeforeMonth t.year.val t.month + (t.day - 1)

/-- The moment in universal time, in seconds. -/
def instant (t : DateTime) : ℚ :=
  86400 * t.dayNumber + t.timeOfDay

theorem fraction_lt (t : DateTime) : ∀ d ∈ t.fraction.map Fin.val, d < 10 := by
  simp only [List.forall_mem_map]
  exact fun d _ => d.isLt

/-- What is below a millisecond is cut off, however many digits the fraction has. -/
theorem nanosecond_div (t : DateTime) :
    t.nanosecond / 1000000 =
      1000 * ofDigits 10 (t.fraction.map Fin.val) / Nat.pow 10 t.fraction.length := by
  have hdigits : ∀ d ∈ t.fraction.map Fin.val ++ List.replicate 9 0, d < 10 := by
    rw [List.forall_mem_append]
    exact ⟨t.fraction_lt, fun d hd => (List.mem_replicate.mp hd).2 ▸ Nat.succ_pos 9⟩
  have hlength : (t.fraction.map Fin.val ++ List.replicate 9 0).length - 9 = t.fraction.length := by
    rw [List.length_append, List.length_map, List.length_replicate, Nat.add_sub_cancel]
  have hvalue : ofDigits 10 (t.fraction.map Fin.val ++ List.replicate 9 0) =
      1000 * ofDigits 10 (t.fraction.map Fin.val) * 1000000 := by
    rw [ofDigits_append, ofDigits_zeros, List.length_replicate]
    show _ * 1000000000 + 0 = _
    omega
  rw [nanosecond, ofDigits_take hdigits, hlength, hvalue, Nat.div_div_eq_div_mul,
    Nat.mul_div_mul_right _ _ (by decide)]

theorem millisecond_lt (t : DateTime) : t.nanosecond / 1000000 < 1000 := by
  have hlt := ofDigits_lt t.fraction_lt
  rw [List.length_map] at hlt
  rw [nanosecond_div, Nat.div_lt_iff_lt_mul (Nat.zero_lt_of_lt hlt)]
  exact Nat.mul_lt_mul_of_pos_left hlt (by decide)

/-- The time of day in whole milliseconds: the seconds are whole, so only the fraction is rounded
down. -/
theorem floor_timeOfDay (t : DateTime) :
    ⌊1000 * t.timeOfDay⌋ = 1000 * t.wholeSeconds + (t.nanosecond / 1000000 : ℕ) := by
  have hsplit : 1000 * t.timeOfDay = ((1000 * t.wholeSeconds : ℤ) : ℚ) +
      ((1000 * ofDigits 10 (t.fraction.map Fin.val) : ℕ) : ℚ) /
        (Nat.pow 10 t.fraction.length : ℕ) := by
    rw [timeOfDay, fractionOfSecond, mul_add, mul_div_assoc', Int.cast_mul, Nat.cast_mul]
    rfl
  rw [hsplit, Int.floor_intCast_add, Rat.floor_natCast_div_natCast, nanosecond_div]
  rfl

/-- The clock of a stamp shows the time of day in universal time, cut to milliseconds. -/
theorem clock_stamp (t : DateTime) : t.stamp.clock = clockAt ⌊1000 * t.timeOfDay⌋ := by
  have hmillisecond := t.millisecond_lt
  have hsecond := t.second.isLt
  have hwhole : t.wholeSeconds = 60 * t.stamp.universalMinute + t.second.val := by
    simp only [wholeSeconds, Stamp.universalMinute, stamp]
    omega
  have hday : ((1000 * t.wholeSeconds + (t.nanosecond / 1000000 : ℕ)) % 86400000).toNat =
      60000 * (t.stamp.universalMinute % minutesPerDay).toNat + 1000 * t.second.val +
        t.nanosecond / 1000000 := by
    rw [hwhole, minutesPerDay]
    omega
  simp only [clockAt, floor_timeOfDay, hday, Stamp.clock]
  -- minutes, seconds and milliseconds stay below 60, 60 and 1000, so the number falls apart into them
  generalize (t.stamp.universalMinute % minutesPerDay).toNat = minutes
  have hhour : (60000 * minutes + 1000 * t.second.val + t.nanosecond / 1000000) / 3600000 =
      minutes / 60 := by omega
  have hminute : (60000 * minutes + 1000 * t.second.val + t.nanosecond / 1000000) / 60000 % 60 =
      minutes % 60 := by omega
  have hseconds : (60000 * minutes + 1000 * t.second.val + t.nanosecond / 1000000) / 1000 % 60 =
      t.second.val := by omega
  have hrest : (60000 * minutes + 1000 * t.second.val + t.nanosecond / 1000000) % 1000 =
      t.nanosecond / 1000000 := by omega
  rw [hhour, hminute, hseconds, hrest]
  rfl

theorem displayStamp_text (t : DateTime) : displayStamp t.text = clockAt ⌊1000 * t.timeOfDay⌋ := by
  rw [displayStamp, parse?_text]
  exact t.clock_stamp

/-- Two notations of one moment lie whole days apart on their local clocks. -/
theorem clockAt_of_instant_eq {t u : DateTime} (h : t.instant = u.instant) :
    clockAt ⌊1000 * t.timeOfDay⌋ = clockAt ⌊1000 * u.timeOfDay⌋ := by
  have hdays : 1000 * t.timeOfDay =
      1000 * u.timeOfDay + ((86400000 * ((u.dayNumber : ℤ) - t.dayNumber) : ℤ) : ℚ) := by
    rw [instant, instant] at h
    push_cast
    linarith
  rw [hdays, Int.floor_add_intCast, clockAt_add_days]

end DateTime

/-- A timestamp is shown as the time of day in universal time of the moment that it names. -/
theorem shows_universal_time :
    (∀ t : DateTime, displayStamp t.text = clockAt ⌊1000 * t.timeOfDay⌋) ∧
      (∀ t u : DateTime, t.instant = u.instant → displayStamp t.text = displayStamp u.text) ∧
      ∀ text : String, standard? text.toList = none → loose? text.toList = none →
        displayStamp text = text := by
  refine ⟨DateTime.displayStamp_text, fun t u h => ?_, fun text hstandard hloose => ?_⟩
  · rw [t.displayStamp_text, u.displayStamp_text, DateTime.clockAt_of_instant_eq h]
  · rw [displayStamp, Stamp.parse?, hstandard]
    simp only [hloose]

/-- Half past midnight of a new year, where clocks are ahead by five hours and three quarters. -/
def newYear : DateTime where
  year := 2024
  month := 1
  day := 1
  hour := 0
  minute := 30
  second := 15
  fraction := [9, 9, 9, 5]
  zone := .numeric true 5 45 false
  separator := 'T'
  month_range := by decide
  day_range := by decide
  separator_mem := by decide

def oldYear : DateTime where
  year := 2023
  month := 12
  day := 31
  hour := 18
  minute := 45
  second := 15
  fraction := [9, 9, 9, 5, 0]
  zone := .universal false
  separator := 'T'
  month_range := by decide
  day_range := by decide
  separator_mem := by decide

theorem shows_universal_time_new_year :
    newYear.text = "2024-01-01T00:30:15.9995+0545" ∧ oldYear.text = "2023-12-31T18:45:15.99950Z" ∧
      newYear.instant = oldYear.instant ∧ displayStamp newYear.text = displayStamp oldYear.text ∧
      displayStamp newYear.text = "18:45:15.999" ∧ displayStamp "t42" = "t42" := by
  have hinstant : newYear.instant = oldYear.instant := by decide +kernel
  refine ⟨by decide +kernel, by decide +kernel, hinstant,
    shows_universal_time.2.1 newYear oldYear hinstant, ?_,
    shows_universal_time.2.2 "t42" (by decide +kernel) (by decide +kernel)⟩
  rw [shows_universal_time.1 newYear]
  decide +kernel

end LogTail.Time

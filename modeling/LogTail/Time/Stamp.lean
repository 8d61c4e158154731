import LogTail.Number.Digits
import LogTail.Text.Blank

/-!
Timestamps of records. Two notations are read, the one of internet standards and a looser one
with a numeric offset that need not have a colon; a moment is shown as its time of day in
universal time. Which zone a machine is in is not modelled: it is taken to be that of universal
time, so a moment is shown the same way everywhere.
-/
namespace LogTail.Time

open LogTail.Number

structure Stamp where
  year : Int
  month : Nat
  day : Nat
  hour : Nat
  minute : Nat
  /-- Up to 60, for a leap second. -/
  second : Nat
  nanosecond : Nat
  /-- How many minutes local time is ahead of universal time. -/
  offset : Int
  deriving DecidableEq, Repr

def isLeapYear (year : Int) : Bool :=
  year % 4 == 0 && (year % 100 != 0 || year % 400 == 0)

def daysInMonth (year : Int) (month : Nat) : Nat :=
  if month = 2 then if isLeapYear year then 29 else 28
  else if month = 4 ∨ month = 6 ∨ month = 9 ∨ month = 11 then 30
  else 31

def firstYear : Int := -262143

def lastYear : Int := 262142

def minutesPerDay : Int := 1440

namespace Stamp

/-- Minutes from the beginning of the local day to the moment in universal time. -/
def universalMinute (s : Stamp) : Int :=
  s.hour * 60 + s.minute - s.offset

def isValid (s : Stamp) : Bool :=
  firstYear ≤ s.year && s.year ≤ lastYear &&
    1 ≤ s.month && s.month ≤ 12 && 1 ≤ s.day && s.day ≤ daysInMonth s.year s.month &&
    s.hour ≤ 23 && s.minute ≤ 59 && s.second ≤ 60 &&
    s.offset.natAbs < minutesPerDay.natAbs &&
    !(s.universalMinute < 0 && s.year == firstYear && s.month == 1 && s.day == 1) &&
    !(minutesPerDay ≤ s.universalMinute && s.year == lastYear && s.month == 12 && s.day == 31)

end Stamp

abbrev Reader (α : Type) := List Char → Option (α × List Char)

def takeDigits (most : Option Nat) : List Char → List Nat × List Char
  | [] => ([], [])
  | c :: rest =>
    match digit? 10 c, most with
    | some _, some 0 => ([], c :: rest)
    | some d, _ =>
      let (ds, rest) := takeDigits (most.map (· - 1)) rest
      (d :: ds, rest)
    | none, _ => ([], c :: rest)

def number (least : Nat) (most : Option Nat) : Reader Nat := fun cs =>
  let (ds, rest) := takeDigits most cs
  if ds.length < least then none else some (ofDigits 10 ds, rest)

def oneOf (wanted : List Char) : Reader Char
  | c :: rest => if wanted.contains c then some (c, rest) else none
  | [] => none

/-- Reads the digits of a fraction of a second; the ninth is the last that counts. -/
def fraction : Reader Nat
  | '.' :: rest =>
    let (ds, rest) := takeDigits none rest
    if ds.isEmpty then none else some (ofDigits 10 ((ds ++ List.replicate 9 0).take 9), rest)
  | rest => some (0, rest)

/-- Reads a numeric offset; `separate` skips what stands between hours and minutes. -/
def offset (separate : List Char → Option (List Char)) : Reader Int := fun cs => do
  let (sign, cs) ← oneOf ['+', '-', '−'] cs
  let (hours, cs) ← number 2 (some 2) cs
  let cs ← separate cs
  let (minutes, cs) ← number 2 (some 2) cs
  if 60 ≤ minutes then none
  else
    let total : Int := hours * 60 + minutes
    return (if sign = '+' then total else -total, cs)

/-- Reads a stamp in the standard notation: every field with all its digits, and a colon in the
offset unless that is a Z. -/
def standard? (cs : List Char) : Option Stamp := do
  let (year, cs) ← number 4 (some 4) cs
  let (_, cs) ← oneOf ['-'] cs
  let (month, cs) ← number 2 (some 2) cs
  let (_, cs) ← oneOf ['-'] cs
  let (day, cs) ← number 2 (some 2) cs
  let (_, cs) ← oneOf ['T', 't', ' '] cs
  let (hour, cs) ← number 2 (some 2) cs
  let (_, cs) ← oneOf [':'] cs
  let (minute, cs) ← number 2 (some 2) cs
  let (_, cs) ← oneOf [':'] cs
  let (second, cs) ← number 2 (some 2) cs
  let (nanosecond, cs) ← fraction cs
  let (offset, cs) ←
    match oneOf ['Z', 'z'] cs with
    | some (_, rest) => some (0, rest)
    | none => offset (fun cs => (oneOf [':'] cs).map (·.2)) cs
  let s : Stamp := ⟨year, month, day, hour, minute, second, nanosecond, offset⟩
  if cs.isEmpty && s.isValid then some s else none

def looseNumber : Reader Nat := fun cs =>
  number 1 (some 2) (Text.trimStart cs)

def looseYear : Reader Int := fun cs =>
  match Text.trimStart cs with
  | '-' :: rest => (number 1 none rest).map fun (n, rest) => (-(n : Int), rest)
  | '+' :: rest => (number 1 none rest).map fun (n, rest) => ((n : Int), rest)
  | rest => (number 1 (some 4) rest).map fun (n, rest) => ((n : Int), rest)

/-- Reads a stamp in the looser notation: leading zeros may be missing, blanks may stand before a
field, and colons and blanks between the parts of the offset. -/
def loose? (cs : List Char) : Option Stamp := do
  let (year, cs) ← looseYear cs
  let (_, cs) ← oneOf ['-'] cs
  let (month, cs) ← looseNumber cs
  let (_, cs) ← oneOf ['-'] cs
  let (day, cs) ← looseNumber cs
  let (_, cs) ← oneOf ['T'] cs
  let (hour, cs) ← looseNumber cs
  let (_, cs) ← oneOf [':'] cs
  let (minute, cs) ← looseNumber cs
  let (_, cs) ← oneOf [':'] cs
  let (second, cs) ← looseNumber cs
  let (nanosecond, cs) ← fraction cs
  let (offset, cs) ←
    offset (fun cs => some (cs.dropWhile fun c => c == ':' || Text.isBlank c)) (Text.trimStart cs)
  let s : Stamp := ⟨year, month, day, hour, minute, second, nanosecond, offset⟩
  if cs.isEmpty && s.isValid then some s else none

def Stamp.parse? (text : String) : Option Stamp :=
  match standard? text.toList with
  | some s => some s
  | none => loose? text.toList

def Stamp.clock (s : Stamp) : String :=
  let minutes := (s.universalMinute % minutesPerDay).toNat
  String.ofList (padded 2 (minutes / 60) ++ ':' :: padded 2 (minutes % 60) ++ ':' ::
    padded 2 s.second ++ '.' :: padded 3 (s.nanosecond / 1000000))

/-- How the timestamp of a record is shown: if it can be read, as a time of day in universal time,
which is taken to be the zone of the machine, and as it is otherwise. -/
def displayStamp (text : String) : String :=
  match Stamp.parse? text with
  | some s => s.clock
  | none => text

end LogTail.Time

import LogTail.Number.Digits
import LogTail.Url.Percent

/-!
Hosts that are numeric addresses: four parts of a word of 32 bits, which may be abbreviated and
written to other bases, or eight parts of 16 bits each, of which a run of zeros may be left out.
-/
namespace LogTail.Url

open LogTail.Number

/-- A part of an address of four parts: decimal, octal after a zero, or hexadecimal after 0x. -/
def part? : List Char → Option Nat
  | [] => none
  | '0' :: 'x' :: rest | '0' :: 'X' :: rest => natural? 16 rest
  | '0' :: c :: rest => natural? 8 (c :: rest)
  | cs => natural? 10 cs

def dotted (cs : List Char) : List (List Char) :=
  let parts := splitAt '.' cs
  if 1 < parts.length ∧ parts.getLast? = some [] then parts.dropLast else parts

def endsInNumber (cs : List Char) : Bool :=
  match (dotted cs).getLast? with
  | some [] | none => false
  | some last => last.all (·.isDigit) || (part? last).isSome

/-- An address of four parts. Where there are fewer, the last one stands for all that are
missing. -/
def word? (cs : List Char) : Option Nat := do
  let parts ← (dotted cs).mapM part?
  let last ← parts.getLast?
  let upper := parts.dropLast
  if 4 < parts.length ∨ upper.any (255 < ·) ∨ Nat.pow 256 (5 - parts.length) ≤ last then none
  else some (upper.foldr (fun p n => n / 256 + p * 16777216) 0 + last)

def wordText (n : Nat) : List Char :=
  ['.'].intercalate ([n / 16777216, n / 65536, n / 256, n].map fun p => decimal (p % 256))

def piece? (cs : List Char) : Option Nat :=
  if cs.isEmpty ∨ 4 < cs.length then none else natural? 16 cs

def plainPart? : List Char → Option Nat
  | [] => none
  | '0' :: _ :: _ => none
  | cs => (natural? 10 cs).bind fun n => if n ≤ 255 then some n else none

def embedded? (cs : List Char) : Option (List Nat) := do
  match ← (splitAt '.' cs).mapM plainPart? with
  | [a, b, c, d] => some [256 * a + b, 256 * c + d]
  | _ => none

/-- Parts between colons, of which the last may be an address of four parts if `isEnd`. -/
def pieces? (isEnd : Bool) (cs : List Char) : Option (List Nat) :=
  if cs.isEmpty then some []
  else
    let parts := splitAt ':' cs
    match parts.getLast? with
    | some last =>
      if isEnd && last.contains '.' then do
        let upper ← parts.dropLast.mapM piece?
        let lower ← embedded? last
        some (upper ++ lower)
      else parts.mapM piece?
    | none => none

def atGap : List Char → List Char → Option (List Char × List Char)
  | before, ':' :: ':' :: rest => some (before.reverse, rest)
  | before, c :: rest => atGap (c :: before) rest
  | _, [] => none

/-- An address of eight parts. Two colons in a row stand for a run of zeros. -/
def eight? (cs : List Char) : Option (List Nat) :=
  match atGap [] cs with
  | none => (pieces? true cs).bind fun ps => if ps.length = 8 then some ps else none
  | some (left, right) => do
    let upper ← pieces? false left
    let lower ← pieces? true right
    let given := upper.length + lower.length
    if 7 < given then none else some (upper ++ List.replicate (8 - given) 0 ++ lower)

def zerosAhead (ps : List Nat) : Nat :=
  (ps.takeWhile (· == 0)).length

/-- Where the first of the longest runs of zeros begins, and its length; `i` parts came
before. -/
def longestGap (i : Nat) : List Nat → Nat × Nat
  | [] => (0, 0)
  | p :: rest =>
    let here := zerosAhead (p :: rest)
    let later := longestGap (i + 1) rest
    if later.2 ≤ here then (i, here) else later

def hexText (n : Nat) : List Char :=
  Nat.toDigits 16 n

/-- An address of eight parts. The longest run of zeros, if it is longer than one, is left
out. -/
def eightText (ps : List Nat) : List Char :=
  let (start, length) := longestGap 0 ps
  let join (ps : List Nat) := [':'].intercalate (ps.map hexText)
  if length < 2 then join ps
  else join (ps.take start) ++ ':' :: ':' :: join (ps.drop (start + length))

end LogTail.Url

/-!
Punycode: a label with characters beyond ASCII is written as its ASCII characters, followed by
where the others are to be inserted, as numbers to base 36 whose digits have changing weights.
-/
namespace LogTail.Url.Punycode

def digitChar (d : Nat) : Char :=
  if d < 26 then Char.ofNat ('a'.toNat + d) else Char.ofNat ('0'.toNat + d - 26)

def digitValue? (c : Char) : Option Nat :=
  if 'a' ≤ c ∧ c ≤ 'z' then some (c.toNat - 'a'.toNat)
  else if 'A' ≤ c ∧ c ≤ 'Z' then some (c.toNat - 'A'.toNat)
  else if '0' ≤ c ∧ c ≤ '9' then some (c.toNat - '0'.toNat + 26)
  else none

/-- A digit below this value is the last of its number; `k` is 36 times its place. -/
def threshold (k bias : Nat) : Nat :=
  if k ≤ bias then 1 else if bias + 26 ≤ k then 26 else k - bias

/-- Thresholds lie between 1 and 26. -/
theorem threshold_bounds (k bias : Nat) : 1 ≤ threshold k bias ∧ threshold k bias ≤ 26 := by
  unfold threshold
  split
  · omega
  · split <;> omega

def settleBias (k delta : Nat) : Nat :=
  if 455 < delta then settleBias (k + 36) (delta / 35) else k + 36 * delta / (delta + 38)
termination_by delta
decreasing_by omega

def adapt (delta count : Nat) (isFirst : Bool) : Nat :=
  let delta := if isFirst then delta / 700 else delta / 2
  settleBias 0 (delta + delta / count)

def encodeNumber (k bias q : Nat) : List Char :=
  let t := threshold k bias
  if q < t then [digitChar q]
  else digitChar (t + (q - t) % (36 - t)) :: encodeNumber (k + 36) bias ((q - t) / (36 - t))
termination_by q
decreasing_by
  have h := threshold_bounds k bias
  exact Nat.lt_of_le_of_lt (Nat.div_le_self _ _) (by omega)

/-- What has been written, and what the next number depends on. -/
structure Encoder where
  written : List Char
  delta : Nat
  bias : Nat
  placed : Nat
  isFirst : Bool

def Encoder.pass (m : Nat) (e : Encoder) (c : Nat) : Encoder :=
  if c < m then { e with delta := e.delta + 1 }
  else if c = m then
    { written := e.written ++ encodeNumber 36 e.bias e.delta
      delta := 0
      bias := adapt e.delta (e.placed + 1) e.isFirst
      placed := e.placed + 1
      isFirst := false }
  else e

def insertAll (input : List Nat) (n : Nat) (e : Encoder) : List Nat → Encoder
  | [] => e
  | m :: rest =>
    let e := { e with delta := e.delta + (m - n) * (e.placed + 1) }
    let e := input.foldl (Encoder.pass m) e
    insertAll input (m + 1) { e with delta := e.delta + 1 } rest

def encode (label : List Char) : List Char :=
  let basic := label.filter (·.toNat < 0x80)
  let input := label.map Char.toNat
  let others := ((input.filter (0x80 ≤ ·)).mergeSort).eraseDups
  let start := if basic.isEmpty then [] else basic ++ ['-']
  start ++ (insertAll input 0x80 ⟨[], 0, 72, basic.length, true⟩ others).written

structure Decoder where
  output : List Char
  /-- The code point last inserted. -/
  point : Nat
  position : Nat
  bias : Nat
  /-- The position before the number began. -/
  before : Nat
  weight : Nat
  k : Nat

/-- Takes one digit; with the last digit of a number a character is inserted. -/
def Decoder.step (d : Decoder) (c : Char) : Option Decoder := do
  let digit ← digitValue? c
  let position := d.position + digit * d.weight
  let t := threshold d.k d.bias
  if digit < t then
    let size := d.output.length + 1
    let point := d.point + position / size
    let place := position % size
    if h : point.isValidChar then
      some
        { output := d.output.take place ++ Char.ofNatAux point h :: d.output.drop place
          point := point
          position := place + 1
          bias := adapt (position - d.before) size (d.before == 0)
          before := place + 1
          weight := 1
          k := 36 }
    else none
  else some { d with position := position, weight := d.weight * (36 - t), k := d.k + 36 }

def decode? (text : List Char) : Option (List Char) := do
  let digits := (text.reverse.takeWhile (· ≠ '-')).reverse
  let basic := (text.take (text.length - digits.length)).dropLast
  let d ← digits.foldlM Decoder.step ⟨basic, 0x80, 0, 72, 0, 1, 36⟩
  if d.k = 36 ∧ text.all (·.toNat < 0x80) then some d.output else none

end LogTail.Url.Punycode

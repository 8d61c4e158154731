import LogTail.Number.Binary
import LogTail.Number.Digits

/-!
The shortest decimal that reads back as a given number of double precision. A decimal reads back
if it lies in the interval of reals that round to the number. Grids of decimals with one, two, …
seventeen digits are tried in turn: if a point of a grid lies in the interval, so does one of
the two grid points around the number.
-/
namespace LogTail.Number

structure Decimal where
  digits : Nat
  exponent : Int
  deriving DecidableEq, Repr

/-- How many decimal digits a natural number has; zero has none. -/
def digitCount (n : Nat) : Nat :=
  if n = 0 then 0 else (decimal n).length

/-- The ratio `n / d · 10 ^ e` as a numerator and a denominator. -/
def scaleTen (n d : Nat) (e : Int) : Nat × Nat :=
  if 0 ≤ e then (n * Nat.pow 10 e.toNat, d) else (n, d * Nat.pow 10 (-e).toNat)

/-- The exponent of the leading decimal digit of `n / d`, for positive `n` and `d`. -/
def leadingTen (n d : Nat) : Int :=
  if d ≤ n then (digitCount (n / d) : Int) - 1
  else -(digitCount ((d + n - 1) / n - 1) : Int)

def gap (a b : Nat) : Nat :=
  (a - b) + (b - a)

/-- Whether `c` units of `10 ^ e` read back as `x` in double precision. Everything is measured
in quarters of the last place of `x`: the interval reaches two quarters up, and two quarters
down, or one where the number below lies nearer. -/
def readsBack (x : Magnitude) (c : Nat) (e : Int) : Bool :=
  let (n, d) := scaleTen c 1 e
  let (n, d) := scale n d (2 - x.exponent)
  let near := x.mantissa == Nat.pow 2 (double.precision - 1) && double.leastExponent < x.exponent
  let low := 4 * x.mantissa - (if near then 1 else 2)
  let high := 4 * x.mantissa + 2
  if x.mantissa % 2 == 0 then low * d ≤ n && n ≤ high * d else low * d < n && n < high * d

/-- The grid point with `count` digits that reads back as `x` and is nearest to it. -/
def onGrid (x : Magnitude) (count : Nat) : Option Decimal :=
  let (n, d) := x.ratio
  let e := leadingTen n d - (count - 1 : Nat)
  let (n', d') := scaleTen n d (-e)
  let below := n' / d'
  let above := below + 1
  match readsBack x below e, readsBack x above e with
  | true, true =>
    if gap n' (below * d') ≤ gap n' (above * d') then some ⟨below, e⟩ else some ⟨above, e⟩
  | true, false => some ⟨below, e⟩
  | false, true => some ⟨above, e⟩
  | false, false => none

/-- Ten units of a place are one unit of the next. A search that starts with one digit meets no
other trailing zero. -/
def Decimal.carry (x : Decimal) : Decimal :=
  if x.digits = 10 then ⟨1, x.exponent + 1⟩ else x

/-- The decimal with the fewest digits that reads back as `x`; zero has the digit 0. -/
def shortest (x : Magnitude) : Decimal :=
  if x.isZero then ⟨0, 0⟩
  else (((List.range 17).findSome? fun i => onGrid x (i + 1)).getD ⟨0, 0⟩).carry

end LogTail.Number

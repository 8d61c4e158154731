/-!
Binary floating point in exact arithmetic. A finite magnitude is a natural number times a power
of two; reading a ratio into a format takes the nearest such number the format has, the even one
of two that are equally near.
-/
namespace LogTail.Number

/-- A magnitude `mantissa · 2 ^ exponent`. -/
structure Magnitude where
  mantissa : Nat
  exponent : Int
  deriving DecidableEq, Repr

/-- A binary format: the bits of a mantissa, and the exponents of the last bit of its smallest
and of its largest numbers. -/
structure Format where
  precision : Nat
  leastExponent : Int
  greatestExponent : Int

def double : Format := ⟨53, -1074, 971⟩

def single : Format := ⟨24, -149, 104⟩

/-- The ratio `n / d · 2 ^ e` as a numerator and a denominator. -/
def scale (n d : Nat) (e : Int) : Nat × Nat :=
  if 0 ≤ e then (n * Nat.pow 2 e.toNat, d) else (n, d * Nat.pow 2 (-e).toNat)

/-- The nearest natural number to `n / d`; of two equally near ones the even one. -/
def roundHalfEven (n d : Nat) : Nat :=
  let q := n / d
  let r := 2 * (n % d)
  if r < d then q else if d < r then q + 1 else if q % 2 = 0 then q else q + 1

/-- The exponent of the leading bit of `n / d`, for positive `n` and `d`. -/
def leadingExponent (n d : Nat) : Int :=
  let e : Int := (Nat.log2 n : Int) - Nat.log2 d
  let (n', d') := scale n d (-e)
  if n' < d' then e - 1 else e

/-- The number of the format nearest to `n / d`, or nothing where that lies beyond the largest
one. -/
def Format.round (f : Format) (n d : Nat) : Option Magnitude :=
  if n = 0 then some ⟨0, f.leastExponent⟩
  else
    let e := max f.leastExponent (leadingExponent n d - (f.precision - 1 : Nat))
    let (n', d') := scale n d (-e)
    let m := roundHalfEven n' d'
    let x : Magnitude :=
      if m = Nat.pow 2 f.precision then ⟨Nat.pow 2 (f.precision - 1), e + 1⟩ else ⟨m, e⟩
    if f.greatestExponent < x.exponent then none else some x

namespace Magnitude

def isZero (x : Magnitude) : Bool :=
  x.mantissa == 0

def ratio (x : Magnitude) : Nat × Nat :=
  scale x.mantissa 1 x.exponent

def times (f : Format) (x y : Magnitude) : Option Magnitude :=
  let (n, d) := scale (x.mantissa * y.mantissa) 1 (x.exponent + y.exponent)
  f.round n d

def dividedBy (f : Format) (x y : Magnitude) : Option Magnitude :=
  let (n, d) := scale x.mantissa y.mantissa (x.exponent - y.exponent)
  f.round n d

def ceil (x : Magnitude) : Nat :=
  let (n, d) := x.ratio
  (n + d - 1) / d

end Magnitude

end LogTail.Number

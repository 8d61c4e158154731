import LogTail.Number.Digits

/-!
Lengths of time and how they are written: in the largest of four units that gives a whole part,
with as many decimal places as needed.
-/
namespace LogTail

open LogTail.Number

structure Duration where
  nanoseconds : Nat
  deriving DecidableEq, Repr

namespace Duration

def ofMilliseconds (n : Nat) : Duration :=
  ⟨n * 1000000⟩

def inUnits (places n : Nat) : List Char :=
  let fraction := ((padded places (n % Nat.pow 10 places)).reverse.dropWhile (· == '0')).reverse
  decimal (n / Nat.pow 10 places) ++ (if fraction.isEmpty then [] else '.' :: fraction)

def text (d : Duration) : String :=
  let n := d.nanoseconds
  if 1000000000 ≤ n then String.ofList (inUnits 9 n) ++ "s"
  else if 1000000 ≤ n then String.ofList (inUnits 6 n) ++ "ms"
  else if 1000 ≤ n then String.ofList (inUnits 3 n) ++ "µs"
  else toString n ++ "ns"

end Duration

end LogTail

/-!
Digits: their values, the numbers they make, and how numbers are written in them.
-/
namespace LogTail.Number

/-- The value of a digit to a base of at most sixteen; letters may be of either case. -/
def digit? (base : Nat) (c : Char) : Option Nat :=
  let value :=
    if '0' ≤ c ∧ c ≤ '9' then c.toNat - '0'.toNat
    else if 'a' ≤ c ∧ c ≤ 'f' then c.toNat - 'a'.toNat + 10
    else if 'A' ≤ c ∧ c ≤ 'F' then c.toNat - 'A'.toNat + 10
    else base
  if value < base then some value else none

def ofDigits (base : Nat) (digits : List Nat) : Nat :=
  digits.foldl (base * · + ·) 0

/-- The number that a text stands for which holds only digits; no digits make zero. -/
def natural? (base : Nat) (cs : List Char) : Option Nat :=
  (cs.mapM (digit? base)).map (ofDigits base)

def decimal (n : Nat) : List Char :=
  Nat.toDigits 10 n

def padded (width n : Nat) : List Char :=
  List.replicate (width - (decimal n).length) '0' ++ decimal n

end LogTail.Number

import LogTail.Json.Value

/-!
Writing JSON: no blanks, keys in order, and as few escapes as the grammar allows.
-/
namespace LogTail.Json

open LogTail.Number

def hexChar (n : Nat) : Char :=
  if n < 10 then Char.ofNat ('0'.toNat + n) else Char.ofNat ('a'.toNat + n - 10)

def escapeChar (c : Char) : List Char :=
  if c = '"' then ['\\', '"']
  else if c = '\\' then ['\\', '\\']
  else if c = '\x08' then ['\\', 'b']
  else if c = '\x0c' then ['\\', 'f']
  else if c = '\n' then ['\\', 'n']
  else if c = '\r' then ['\\', 'r']
  else if c = '\t' then ['\\', 't']
  else if c.toNat < 0x20 then
    ['\\', 'u', '0', '0', hexChar (c.toNat / 16), hexChar (c.toNat % 16)]
  else [c]

def printString (s : String) : List Char :=
  '"' :: s.toList.flatMap escapeChar ++ ['"']

def printInt (i : Int) : List Char :=
  if i < 0 then '-' :: decimal i.natAbs else decimal i.natAbs

/-- A magnitude with the fewest digits that read back. Magnitudes from one hundred-thousandth up
to ten to the sixteenth are written in full, with a point; others with an exponent that shows
its sign. -/
def printMagnitude (x : Magnitude) : List Char :=
  let d := shortest x
  let digits := decimal d.digits
  let places : Int := digits.length + d.exponent
  if x.isZero then ['0', '.', '0']
  else if 0 ≤ d.exponent ∧ places ≤ 16 then
    digits ++ List.replicate d.exponent.toNat '0' ++ ['.', '0']
  else if 0 < places ∧ places ≤ 16 then
    digits.take places.toNat ++ '.' :: digits.drop places.toNat
  else if -5 < places ∧ places ≤ 0 then
    '0' :: '.' :: (List.replicate (-places).toNat '0' ++ digits)
  else
    let e := places - 1
    (match digits with
      | [d] => [d]
      | d :: rest => d :: '.' :: rest
      | [] => []) ++ 'e' :: (if e < 0 then '-' else '+') :: decimal e.natAbs

namespace Value

mutual

def print : Value → List Char
  | .null => ['n', 'u', 'l', 'l']
  | .bool true => ['t', 'r', 'u', 'e']
  | .bool false => ['f', 'a', 'l', 's', 'e']
  | .integer i => printInt i
  | .float negative x => if negative then '-' :: printMagnitude x else printMagnitude x
  | .string s => printString s
  | .array [] => ['[', ']']
  | .array (v :: rest) => '[' :: print v ++ printItems rest ++ [']']
  | .object [] => ['\x7b', '\x7d']
  | .object ((k, v) :: rest) =>
    '\x7b' :: printString k ++ ':' :: print v ++ printFields rest ++ ['\x7d']

def printItems : List Value → List Char
  | [] => []
  | v :: rest => ',' :: print v ++ printItems rest

def printFields : List (String × Value) → List Char
  | [] => []
  | (k, v) :: rest => ',' :: printString k ++ ':' :: print v ++ printFields rest

end

def render (v : Value) : String :=
  String.ofList v.print

end Value

end LogTail.Json

import LogTail.Json.Tree
import LogTail.Number.Shortest

/-!
JSON values as a program keeps them: numbers as integers or in double precision, and objects
with each key once, ordered by key.
-/
namespace LogTail.Json

open LogTail.Number

/-- A JSON value. A float is kept as a sign and a magnitude in double precision. -/
inductive Value
  | null
  | bool (value : Bool)
  | integer (value : Int)
  | float (negative : Bool) (magnitude : Magnitude)
  | string (content : String)
  | array (items : List Value)
  | object (fields : List (String × Value))

def insertField {α : Type} (key : String) (value : α) : List (String × α) → List (String × α)
  | [] => [(key, value)]
  | (k, v) :: rest =>
    if key < k then (key, value) :: (k, v) :: rest
    else if key = k then (key, value) :: rest
    else (k, v) :: insertField key value rest

/-- Orders fields by key; of several values for one key the last stays. -/
def orderFields {α : Type} (fields : List (String × α)) : List (String × α) :=
  fields.foldl (fun done (k, v) => insertField k v done) []

def greatestWord : Nat := 18446744073709551615

/-- The significant digits of a number, as far as they fit a word of 64 bits. -/
structure Significand where
  /-- The number that the digits taken so far make. -/
  value : Nat
  /-- How many digits the point moves to the right. -/
  exponent : Int
  /-- Whether a digit was dropped because the word was full. -/
  full : Bool
  deriving DecidableEq, Repr

namespace Significand

/-- Takes a digit before the point. A digit that does not fit counts as a place. -/
def addWhole (s : Significand) (d : Nat) : Significand :=
  if s.full then { s with exponent := s.exponent + 1 }
  else if 10 * s.value + d ≤ greatestWord then { s with value := 10 * s.value + d }
  else { s with exponent := s.exponent + 1, full := true }

/-- Takes a digit after the point. From the first digit that does not fit on, all are
dropped. -/
def addFraction (s : Significand) (d : Nat) : Significand :=
  if s.full then s
  else if 10 * s.value + d ≤ greatestWord then
    { s with value := 10 * s.value + d, exponent := s.exponent - 1 }
  else { s with full := true }

def ofDigits (whole fraction : List Nat) : Significand :=
  let s := whole.foldl addWhole ⟨0, 0, false⟩
  fraction.foldl addFraction { s with full := false }

end Significand

def powerOfTen (n : Nat) : Magnitude :=
  (double.round (Nat.pow 10 n) 1).getD ⟨0, 0⟩

/-- Divides by ten to the `n`, in steps of at most 308 places; each step rounds. -/
def divideByTen (x : Magnitude) (n : Nat) : Option Magnitude :=
  if n ≤ 308 then x.dividedBy double (powerOfTen n)
  else if x.isZero then some x
  else (x.dividedBy double (powerOfTen 308)).bind fun y => divideByTen y (n - 308)
termination_by n

/-- The magnitude of a significand times ten to the `e`, or nothing where it is too large. The
significand is rounded first and the product or quotient after it. -/
def magnitude? (value : Nat) (e : Int) : Option Magnitude :=
  (double.round value 1).bind fun x =>
    if e < 0 then divideByTen x (-e).toNat
    else if e ≤ 308 then x.times double (powerOfTen e.toNat)
    else if x.isZero then some x
    else none

def greatestExponent : Nat := 2147483647

def clampExponent (e : Int) : Int :=
  max (-2147483648) (min e greatestExponent)

/-- Reads a number that is not a plain integer of 64 bits. -/
def float? (n : NumberText) : Option Value :=
  let s := Significand.ofDigits n.whole n.fraction
  match n.exponent with
  | none => (magnitude? s.value s.exponent).map (.float n.negative)
  | some (negative, digits) =>
    let e := ofDigits 10 digits
    if greatestExponent < e then
      if s.value ≠ 0 ∧ ¬negative then none
      else some (.float n.negative ⟨0, double.leastExponent⟩)
    else
      (magnitude? s.value (clampExponent (s.exponent + (if negative then -(e : Int) else e)))).map
        (.float n.negative)

/-- Reads a number. An integer stays one if it fits 64 bits, unsigned or, below zero, signed. -/
def number? (n : NumberText) : Option Value :=
  let v := ofDigits 10 n.whole
  if n.fraction = [] ∧ n.exponent = none then
    if !n.negative then
      if v ≤ greatestWord then some (.integer v) else float? n
    else if 0 < v ∧ v ≤ 9223372036854775808 then some (.integer (-(v : Int)))
    else float? n
  else float? n

namespace Tree

mutual

/-- The value of a tree in which at most `room` containers may be open at once. -/
def value? (room : Nat) : Tree → Option Value
  | .null => some .null
  | .bool b => some (.bool b)
  | .number n => number? n
  | .string s => s.map .string
  | .array items => if room = 0 then none else (values? (room - 1) items).map .array
  | .object fields =>
    if room = 0 then none
    else (fields? (room - 1) fields).map fun fs => .object (orderFields fs)

def values? (room : Nat) : List Tree → Option (List Value)
  | [] => some []
  | t :: rest => (value? room t).bind fun v => (values? room rest).map (v :: ·)

def fields? (room : Nat) : List (Option String × Tree) → Option (List (String × Value))
  | [] => some []
  | (key, t) :: rest =>
    key.bind fun k => (value? room t).bind fun v => (fields? room rest).map ((k, v) :: ·)

end

end Tree

end LogTail.Json

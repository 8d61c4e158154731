import LogTail.App.Key
import LogTail.Number.Digits
import LogTail.Text.Lower

/-!
Keys from what a terminal sends. A key is one character, or a sequence that begins with the
escape character; the escape character before another key stands for the alt key held down.
-/
namespace LogTail.Input

inductive Reading
  | key (k : Key)
  | incomplete
  | unknown
  deriving DecidableEq, Repr

def plain (code : KeyCode) : Reading :=
  .key ⟨code, false, false, false⟩

def control (n : Nat) : Reading :=
  .key ⟨.char (Char.ofNat n), false, true, false⟩

def single (c : Char) : Reading :=
  let n := c.toNat
  if c = '\r' then plain .enter
  else if c = '\t' then plain .tab
  else if c = '\x7f' then plain .backspace
  else if n = 0 then control ' '.toNat
  else if n ≤ 0x1A then control (n - 1 + 'a'.toNat)
  else if 0x1C ≤ n ∧ n ≤ 0x1F then control (n - 0x1C + '4'.toNat)
  else .key ⟨.char c, Text.lowerChar c != [c], false, false⟩

def letterKey? (c : Char) : Option KeyCode :=
  if c = 'A' then some .up
  else if c = 'B' then some .down
  else if c = 'C' then some .right
  else if c = 'D' then some .left
  else if c = 'H' then some .home
  else if c = 'F' then some .endKey
  else if c = 'P' then some (.function 1)
  else if c = 'Q' then some (.function 2)
  else if c = 'R' then some (.function 3)
  else if c = 'S' then some (.function 4)
  else none

def numberKey? (n : Nat) : Option KeyCode :=
  if n = 1 ∨ n = 7 then some .home
  else if n = 2 then some .insert
  else if n = 3 then some .delete
  else if n = 4 ∨ n = 8 then some .endKey
  else if n = 5 then some .pageUp
  else if n = 6 then some .pageDown
  else if 11 ≤ n ∧ n ≤ 15 then some (.function (n - 10))
  else if 17 ≤ n ∧ n ≤ 21 then some (.function (n - 11))
  else if 23 ≤ n ∧ n ≤ 26 then some (.function (n - 12))
  else if 28 ≤ n ∧ n ≤ 29 then some (.function (n - 15))
  else if 31 ≤ n ∧ n ≤ 34 then some (.function (n - 17))
  else none

def number? (cs : List Char) : Option Nat :=
  if cs.isEmpty then none else Number.natural? 10 cs

/-- A key with the modifiers of a parameter: one more than the sum of 1 for shift, 2 for alt and 4
for control. -/
def modified (code : KeyCode) (parameter : Option Nat) : Key :=
  let mask := parameter.getD 1 - 1
  ⟨code, mask % 2 == 1, mask / 4 % 2 == 1, mask / 2 % 2 == 1⟩

/-- The key of a sequence with parameters, which ends in `last`. Before a letter the modifiers may
be the only parameter. -/
def withParameters (parameters : List Char) (last : Char) : Reading :=
  let first := parameters.takeWhile (· ≠ ';')
  let second := match number? ((parameters.dropWhile (· ≠ ';')).drop 1) with
    | some n => some n
    | none => if last = '~' then none else number? (parameters.drop (parameters.length - 1))
  let code := if last = '~' then (number? first).bind numberKey? else letterKey? last
  match code with
  | some code => .key (modified code second)
  | none => .unknown

def bracketed : List Char → Reading
  | [] => .incomplete
  | c :: rest =>
    if c.isDigit ∨ c = ';' then
      match (c :: rest).getLast? with
      | some last =>
        if rest.isEmpty || last.toNat < 64 then .incomplete
        else withParameters ((c :: rest).dropLast) last
      | none => .incomplete
    else if c = 'Z' then .key ⟨.backTab, true, false, false⟩
    else
      match letterKey? c with
      | some code => plain code
      | none => .unknown

def read (more : Bool) : List Char → Reading
  | [] => .incomplete
  | '\x1b' :: [] => if more then .incomplete else plain .escape
  | '\x1b' :: '\x1b' :: _ => plain .escape
  | '\x1b' :: 'O' :: rest =>
    match rest with
    | [] => .incomplete
    | c :: _ =>
      match letterKey? c with
      | some code => plain code
      | none => .unknown
  | '\x1b' :: '[' :: rest => bracketed rest
  | '\x1b' :: c :: _ =>
    match single c with
    | .key k => .key { k with alt := true }
    | r => r
  | c :: _ => single c

/-- The keys of characters that go on from `begun`, which is given backwards. -/
def keysAfter (begun : List Char) : List Char → List Key
  | [] => []
  | c :: rest =>
    match read (!rest.isEmpty) (c :: begun).reverse with
    | .key k => k :: keysAfter [] rest
    | .incomplete => keysAfter (c :: begun) rest
    | .unknown => keysAfter [] rest

def keys (text : String) : List Key :=
  keysAfter [] text.toList

end LogTail.Input

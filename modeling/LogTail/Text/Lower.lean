import LogTail.Text.CaseRuns
import LogTail.Text.CasedChars

/-!
Lower case. One character becomes one, except for the capital I with a dot above, which keeps
its dot as a combining mark; and in running text a capital sigma that closes a word takes the
final form.
-/
namespace LogTail.Text

namespace CaseRun

def contains (r : CaseRun) (n : Nat) : Bool :=
  r.first ≤ n && n ≤ r.last && (n - r.first) % r.stride == 0

def lower (r : CaseRun) (n : Nat) : Nat :=
  (n + r.shift).toNat

end CaseRun

def lowerPoint : List CaseRun → Nat → Nat
  | [], n => n
  | r :: rest, n =>
    if n < r.first then n else if r.contains n then r.lower n else lowerPoint rest n

def lowerChar (c : Char) : List Char :=
  if c = 'İ' then ['i', '\u0307'] else [Char.ofNat (lowerPoint caseRuns c.toNat)]

def lowerEach (cs : List Char) : List Char :=
  cs.flatMap lowerChar

def meetsCased (cs : List Char) : Bool :=
  match cs.dropWhile caseIgnorable.contains with
  | [] => false
  | c :: _ => cased.contains c

/-- A sigma closes a word if a cased letter stands before it and none after it. The text before
it is given backwards. -/
def closesWord (before after : List Char) : Bool :=
  meetsCased before && !meetsCased after

/-- Lowers a text that continues `before`, which is given backwards. -/
def lowerAfter (before : List Char) : List Char → List Char
  | [] => []
  | c :: rest =>
    (if c = 'Σ' then [if closesWord before rest then 'ς' else 'σ'] else lowerChar c) ++
      lowerAfter (c :: before) rest

def lower (cs : List Char) : List Char :=
  lowerAfter [] cs

end LogTail.Text

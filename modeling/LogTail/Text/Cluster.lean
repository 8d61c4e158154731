import LogTail.Text.Marks
import LogTail.Text.Pictographs
import LogTail.Text.Conjuncts

/-!
Extended grapheme clusters: what a reader sees as one character. A text is cut into clusters by
reading it once; between two characters there is a cut unless one of the joining rules applies,
and the rules that look further back are served by a `ClusterState`.
-/
namespace LogTail.Text

inductive ClusterClass
  | carriageReturn
  | lineFeed
  | control
  | extender
  | joiner
  | spacingMark
  | prepended
  | flagLetter
  | leadingJamo
  | vowelJamo
  | trailingJamo
  | openSyllable
  | closedSyllable
  | other
  deriving DecidableEq, Repr

def clusterClass (c : Char) : ClusterClass :=
  let n := c.toNat
  if n == 0xD then .carriageReturn
  else if n == 0xA then .lineFeed
  else if clusterControls.contains c then .control
  else if n < 0x300 then .other
  else if n == 0x200D then .joiner
  else if graphemeExtenders.contains c || (0x1F3FB ≤ n && n ≤ 0x1F3FF) then .extender
  else if 0x1F1E6 ≤ n && n ≤ 0x1F1FF then .flagLetter
  else if prependedMarks.contains c then .prepended
  else if spacingMarks.contains c then .spacingMark
  else if (0x1100 ≤ n && n ≤ 0x115F) || (0xA960 ≤ n && n ≤ 0xA97C) then .leadingJamo
  else if (0x1160 ≤ n && n ≤ 0x11A7) || (0xD7B0 ≤ n && n ≤ 0xD7C6) || n == 0x16D63 ||
      (0x16D67 ≤ n && n ≤ 0x16D6A) then .vowelJamo
  else if (0x11A8 ≤ n && n ≤ 0x11FF) || (0xD7CB ≤ n && n ≤ 0xD7FB) then .trailingJamo
  else if 0xAC00 ≤ n && n ≤ 0xD7A3 then
    if (n - 0xAC00) % 28 == 0 then .openSyllable else .closedSyllable
  else .other

inductive Progress
  | none
  | begun
  | ready
  deriving DecidableEq, Repr

structure ClusterState where
  last : ClusterClass
  /-- Whether an odd number of flag letters was read last. -/
  oddFlag : Bool
  /-- A pictograph with marks was begun, and is ready for another after a joiner. -/
  pictograph : Progress
  /-- A consonant was begun, and is ready for another after a linker. -/
  conjunct : Progress
  deriving DecidableEq, Repr

namespace ClusterState

def step (before : Option ClusterState) (c : Char) : ClusterState :=
  let k := clusterClass c
  let pictograph := (before.map (·.pictograph)).getD .none
  let conjunct := (before.map (·.conjunct)).getD .none
  { last := k
    oddFlag := k == .flagLetter && !(before.map (·.oddFlag)).getD false
    pictograph :=
      if pictographs.contains c then .begun
      else if k == .extender && pictograph == .begun then .begun
      else if k == .joiner && pictograph == .begun then .ready
      else .none
    conjunct :=
      if conjunctConsonants.contains c then .begun
      else if conjunct == .none then .none
      else if conjunctLinkers.contains c then .ready
      else if (k == .extender && c.toNat != 0x200C) || k == .joiner then conjunct
      else .none }

def joins (s : ClusterState) (c : Char) : Bool :=
  let k := clusterClass c
  match s.last, k with
  | .carriageReturn, .lineFeed => true
  | .carriageReturn, _ | .lineFeed, _ | .control, _ => false
  | _, .carriageReturn | _, .lineFeed | _, .control => false
  | .leadingJamo, .leadingJamo | .leadingJamo, .vowelJamo | .leadingJamo, .openSyllable
  | .leadingJamo, .closedSyllable => true
  | .openSyllable, .vowelJamo | .openSyllable, .trailingJamo | .vowelJamo, .vowelJamo
  | .vowelJamo, .trailingJamo => true
  | .closedSyllable, .trailingJamo | .trailingJamo, .trailingJamo => true
  | _, .extender | _, .joiner | _, .spacingMark => true
  | .prepended, _ => true
  | .flagLetter, .flagLetter => s.oddFlag
  | _, _ =>
    (s.conjunct == .ready && conjunctConsonants.contains c) ||
      (s.pictograph == .ready && pictographs.contains c)

end ClusterState

/-- Cuts a text that continues the cluster `current`, which is given backwards. -/
def clustersAfter (s : ClusterState) (current : List Char) : List Char → List (List Char)
  | [] => [current.reverse]
  | c :: rest =>
    if s.joins c then clustersAfter (.step (some s) c) (c :: current) rest
    else current.reverse :: clustersAfter (.step (some s) c) [c] rest

def clusters : List Char → List (List Char)
  | [] => []
  | c :: rest => clustersAfter (.step none c) [c] rest

end LogTail.Text

import LogTail.Number.Binary

/-!
Where the reader is in the log. The viewport follows the newest record while it is pinned to the
bottom; scrolling near the bottom pins it and scrolling away from there releases it.
-/
namespace LogTail

open LogTail.Number

inductive Fraction
  | finite (negative : Bool) (magnitude : Magnitude)
  | infinite (negative : Bool)
  | undefined
  deriving DecidableEq, Repr

def greatestLength : Nat := 18446744073709551615

/-- The least whole number that is not below the share of `n`, where it is a length. What is too
large counts as the largest length; what is negative or undefined counts as none. -/
def Fraction.ceilShare (f : Fraction) (n : Nat) : Nat :=
  match f with
  | .undefined => 0
  | .infinite negative => if negative || n == 0 then 0 else greatestLength
  | .finite true _ => 0
  | .finite false x =>
    match (single.round n 1).bind (·.times single x) with
    | some y => min y.ceil greatestLength
    | none => greatestLength

inductive PinThreshold
  | units (n : Nat)
  | share (fraction : Fraction)
  deriving DecidableEq, Repr

namespace PinThreshold

def usual : PinThreshold := .units 100

end PinThreshold

inductive ScrollDirective
  | followLatest
  | hold
  deriving DecidableEq, Repr

structure Scroll where
  pinned : Bool
  offset : Nat
  content : Nat
  viewport : Nat
  threshold : PinThreshold
  deriving DecidableEq, Repr

namespace Scroll

def new (threshold : PinThreshold) : Scroll :=
  ⟨true, 0, 0, 0, threshold⟩

def maxOffset (s : Scroll) : Nat :=
  s.content - s.viewport

def distance (s : Scroll) : Nat :=
  s.maxOffset - s.offset

/-- The distance from which on the viewport is not pinned. -/
def thresholdUnits (s : Scroll) : Nat :=
  match s.threshold with
  | .units n => n
  | .share f => max (f.ceilShare s.viewport) 1

def settle (s : Scroll) : Scroll × ScrollDirective :=
  if s.pinned then ({ s with offset := s.maxOffset }, .followLatest)
  else ({ s with offset := min s.offset s.maxOffset }, .hold)

def setViewport (s : Scroll) (height : Nat) : Scroll :=
  { s with viewport := height }.settle.1

def setContent (s : Scroll) (length : Nat) : Scroll × ScrollDirective :=
  { s with content := length }.settle

def scrollTo (s : Scroll) (offset : Nat) : Scroll :=
  let s := { s with offset := min offset s.maxOffset }
  { s with pinned := decide (s.distance < s.thresholdUnits) }

def up (s : Scroll) (n : Nat) : Scroll :=
  s.scrollTo (s.offset - n)

def down (s : Scroll) (n : Nat) : Scroll :=
  s.scrollTo (s.offset + n)

def pageUp (s : Scroll) : Scroll :=
  s.up (max s.viewport 1)

def pageDown (s : Scroll) : Scroll :=
  s.down (max s.viewport 1)

def toTop (s : Scroll) : Scroll :=
  s.scrollTo 0

def toLatest (s : Scroll) : Scroll :=
  { s with pinned := true, offset := s.maxOffset }

/-- Moves the viewport without the reader having asked for it. -/
def anchorAt (s : Scroll) (offset : Nat) : Scroll :=
  { s with offset := min offset s.maxOffset }

end Scroll

end LogTail

/-!
Keys of the keyboard.
-/
namespace LogTail

inductive KeyCode
  | char (c : Char)
  | enter
  | escape
  | backspace
  | tab
  | backTab
  | delete
  | insert
  | up
  | down
  | left
  | right
  | home
  | endKey
  | pageUp
  | pageDown
  | function (n : Nat)
  /-- A key that few terminals report, by its name. -/
  | other (name : String)
  deriving DecidableEq, Repr

structure Key where
  code : KeyCode
  shift : Bool := false
  control : Bool := false
  /-- The alt key, or any other modifier than shift and control. -/
  alt : Bool := false
  deriving DecidableEq, Repr

namespace Key

/-- The key as bindings know it. Whether a character came with the shift key held down says
nothing that the character does not. -/
def binding (k : Key) : Key :=
  match k.code with
  | .char _ => { k with shift := false }
  | _ => k

/-- The character that a key types: one without modifiers but shift. -/
def typed? (k : Key) : Option Char :=
  match k.code with
  | .char c => if k.control || k.alt then none else some c
  | _ => none

end Key

end LogTail

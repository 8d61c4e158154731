/-!
Positions in the log of the service. A cursor only moves forward, in the order of its tokens as
text.
-/
namespace LogTail

structure Cursor where
  token : Option String
  /-- The empty token stands for none. -/
  nonempty : token ≠ some "" := by simp
  deriving DecidableEq

namespace Cursor

def absent : Cursor where
  token := none

def ofToken (token : String) : Cursor :=
  if h : token = "" then absent else ⟨some token, by simpa using h⟩

def isAbsent (c : Cursor) : Bool :=
  c.token.isNone

def precedes (c next : Cursor) : Bool :=
  match c.token, next.token with
  | _, none => false
  | none, some _ => true
  | some current, some candidate => current < candidate

/-- The later of two positions, the first if neither is. -/
def advance (c next : Cursor) : Cursor :=
  if c.precedes next then next else c

def display (c : Cursor) : String :=
  c.token.getD "<absent>"

end Cursor

end LogTail

import LogTail.Store

/-!
The settings of a session.
-/
namespace LogTail

/-- How a session works. Times are in milliseconds. -/
structure SessionConfig where
  capacity : Nat := Store.usualCapacity
  pollMs : Nat := 2000
  timeoutMs : Nat := 10000
  /-- How many records a full load may bring; the service decides where nothing is said. -/
  limit : Option Nat := none
  deriving DecidableEq, Repr

end LogTail

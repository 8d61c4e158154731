import LogTail.Level
import LogTail.Cursor

/-!
Queries to the service: a full load of the latest records, or those after a cursor.
-/
namespace LogTail

structure Query where
  level : LevelFilter
  /-- Only records after this position; without one the query is a full load. -/
  since : Cursor
  limit : Option Nat
  deriving DecidableEq

namespace Query

def full (level : LevelFilter) (limit : Option Nat) : Query :=
  ⟨level, .absent, limit⟩

def incremental (level : LevelFilter) (since : Cursor) : Query :=
  ⟨level, since, none⟩

def isFull (q : Query) : Bool :=
  q.since.isAbsent

/-- The parameters of the query by name. A limit is sent with full loads only. -/
def params (q : Query) : List (String × String) :=
  (q.level.map fun l => ("level", l.name)).toList ++
  match q.since.token with
  | some token => [("since", token)]
  | none => (q.limit.map fun n => ("limit", toString n)).toList

end Query

end LogTail

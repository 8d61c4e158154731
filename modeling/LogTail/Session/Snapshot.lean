import LogTail.Engine

/-!
What a session shows of itself at one moment.
-/
namespace LogTail

structure Snapshot where
  records : List Stored
  generation : Nat
  epoch : Nat
  phase : Phase
  level : LevelFilter
  loading : Bool
  lastError : Option FaultReport
  counts : LevelCounts
  hasCursor : Bool

namespace Snapshot

def ofEngine (e : Engine) : Snapshot where
  records := e.store.entries
  generation := e.generation
  epoch := e.epoch
  phase := e.phase
  level := e.level
  loading := e.loading
  lastError := e.lastError
  counts := e.store.counts
  hasCursor := !e.cursor.isAbsent

/-- Whether two snapshots of one session show the same. The generation stands for the records and
their counts. -/
def sameAs (a b : Snapshot) : Bool :=
  a.generation == b.generation && a.epoch == b.epoch && a.phase == b.phase &&
    a.level == b.level && a.loading == b.loading && a.lastError == b.lastError &&
    a.hasCursor == b.hasCursor

end Snapshot

end LogTail

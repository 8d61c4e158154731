import LogTail.Record

/-!
The buffer of records. It holds the newest records up to its capacity, oldest first; each gets a
number that is never given twice. The numbers are natural numbers: a counter of 64 bits is taken
never to come to its end.
-/
namespace LogTail

structure Stored where
  seq : Nat
  record : Record

structure LevelCounts where
  debug : Nat
  info : Nat
  warn : Nat
  error : Nat
  fatal : Nat
  deriving DecidableEq, Repr

namespace LevelCounts

def zero : LevelCounts := ⟨0, 0, 0, 0, 0⟩

def get (c : LevelCounts) : Level → Nat
  | .debug => c.debug
  | .info => c.info
  | .warn => c.warn
  | .error => c.error
  | .fatal => c.fatal

def total (c : LevelCounts) : Nat :=
  c.debug + c.info + c.warn + c.error + c.fatal

def update (c : LevelCounts) (f : Nat → Nat) : Level → LevelCounts
  | .debug => { c with debug := f c.debug }
  | .info => { c with info := f c.info }
  | .warn => { c with warn := f c.warn }
  | .error => { c with error := f c.error }
  | .fatal => { c with fatal := f c.fatal }

def increment (c : LevelCounts) (l : Level) : LevelCounts :=
  c.update (· + 1) l

def decrement (c : LevelCounts) (l : Level) : LevelCounts :=
  c.update (· - 1) l

end LevelCounts

structure Store where
  capacity : Nat
  entries : List Stored
  nextSeq : Nat
  counts : LevelCounts

namespace Store

def usualCapacity : Nat := 2000

def empty (capacity : Nat) : Store :=
  ⟨capacity, [], 0, .zero⟩

def size (s : Store) : Nat :=
  s.entries.length

def push (s : Store) (r : Record) : Store :=
  { s with
    entries := s.entries ++ [⟨s.nextSeq, r⟩]
    nextSeq := s.nextSeq + 1
    counts := s.counts.increment r.level }

def evict (s : Store) : Store :=
  match s.entries with
  | [] => s
  | oldest :: rest =>
    { s with entries := rest, counts := s.counts.decrement oldest.record.level }

def insert (s : Store) (r : Record) : Store × Nat :=
  let s := s.push r
  if s.capacity < s.size then (s.evict, 1) else (s, 0)

def append (s : Store) : List Record → Store × Nat
  | [] => (s, 0)
  | r :: rest =>
    let (s, evicted) := s.insert r
    let (s, more) := s.append rest
    (s, evicted + more)

def clear (s : Store) : Store :=
  { s with entries := [], counts := .zero }

def replace (s : Store) (records : List Record) : Store :=
  (records.drop (records.length - s.capacity)).foldl push s.clear

end Store

end LogTail

import LogTail.Store
import LogTail.Text.Lower

/-!
The text filter: a record passes if its message, logger or caller contains the text, whatever its
case. `ranges` says where a text matches, so that it can be marked.
-/
namespace LogTail

structure TextFilter where
  text : String
  deriving DecidableEq, Repr

namespace TextFilter

def none : TextFilter := ⟨""⟩

def needle (f : TextFilter) : List Char :=
  Text.lower f.text.toList

def isEmpty (f : TextFilter) : Bool :=
  f.needle.isEmpty

def occursIn (needle : List Char) : List Char → Bool
  | [] => needle.isEmpty
  | c :: rest => needle.isPrefixOf (c :: rest) || occursIn needle rest

def containsFolded (text : String) (needle : List Char) : Bool :=
  occursIn needle (Text.lower text.toList)

def recordMatches (needle : List Char) (level : LevelFilter) (r : Record) : Bool :=
  level.passes r.level &&
    (needle.isEmpty || containsFolded r.message needle ||
      r.logger.any (containsFolded · needle) || r.caller.any (containsFolded · needle))

def passes (f : TextFilter) (level : LevelFilter) (r : Record) : Bool :=
  recordMatches f.needle level r

def apply (f : TextFilter) (level : LevelFilter) (records : List Stored) : List Stored :=
  let needle := f.needle
  records.filter fun s => recordMatches needle level s.record

structure Range where
  first : Nat
  last : Nat
  deriving DecidableEq, Repr

/-- The characters of a text in lower case, each with the range of the character it comes
from. -/
def folded (offset : Nat) : List Char → List (Char × Range)
  | [] => []
  | c :: rest =>
    let after := offset + c.utf8Size
    (Text.lowerChar c).map (·, ⟨offset, after⟩) ++ folded after rest

/-- Where `needle` occurs, from left to right and without overlap; `skip` characters belong to
the last occurrence. An occurrence reaches over all characters that it comes from. -/
def occurrences (needle : List Char) (skip : Nat) : List (Char × Range) → List Range
  | [] => []
  | (c, r) :: rest =>
    match skip with
    | skip + 1 => occurrences needle skip rest
    | 0 =>
      if needle.isPrefixOf (c :: rest.map (·.1)) then
        let last := (((c, r) :: rest).take needle.length).getLast?
        ⟨r.first, (last.map (·.2.last)).getD r.last⟩ :: occurrences needle (needle.length - 1) rest
      else occurrences needle 0 rest

def joined : List Range → List Range
  | a :: b :: rest =>
    if b.first < a.last then joined (⟨a.first, max a.last b.last⟩ :: rest)
    else a :: joined (b :: rest)
  | short => short
termination_by rs => rs.length

def ranges (f : TextFilter) (text : String) : List Range :=
  if f.isEmpty then [] else joined (occurrences f.needle 0 (folded 0 text.toList))

end TextFilter

end LogTail

import LogTail.Record
import LogTail.Json.Fields

/-!
The JSON form of records. Reading is lenient about levels and about optional parts that are null
or empty; writing leaves such parts out.
-/
namespace LogTail.Record

open LogTail.Json

def partNames : List String :=
  ["timestamp", "level", "message", "logger", "caller", "extra"]

/-- A text that counts as missing when it is null or empty. -/
def label? (t : Tree) : Option (Option String) :=
  (t.nullable? Tree.text?).map fun s => s.filter (· ≠ "")

/-- Attributes: an object, or null for none. -/
def attributes? (room : Nat) (t : Tree) : Option (List (String × Value)) :=
  match t with
  | .null => some []
  | .object _ =>
    match t.value? room with
    | some (.object fields) => some fields
    | _ => none
  | _ => none

def nesting : Nat := 127

/-- Reads a record; it and what it contains may open `room` containers at once. -/
def ofTree? (room : Nat) (t : Tree) : Option Record := do
  let p ← t.parts? partNames
  let timestamp ← p.required? "timestamp" Tree.text?
  let level ← p.required? "level" Tree.text?
  let message ← p.optional? "message" "" Tree.text?
  let logger ← p.optional? "logger" none label?
  let caller ← p.optional? "caller" none label?
  let attributes ← p.optional? "extra" [] (attributes? (room - 1))
  return ⟨timestamp, Level.ofText level, message, logger, caller, attributes⟩

def parse? (text : String) : Option Record :=
  (Tree.parse? text.toList).bind (ofTree? nesting)

def fields (r : Record) : List (String × Value) :=
  [("timestamp", .string r.timestamp), ("level", .string r.level.name),
    ("message", .string r.message)] ++
  (r.logger.map fun s => ("logger", .string s)).toList ++
  (r.caller.map fun s => ("caller", .string s)).toList ++
  (if r.attributes.isEmpty then [] else [("extra", .object r.attributes)])

def render (r : Record) : String :=
  (Value.object r.fields).render

end LogTail.Record

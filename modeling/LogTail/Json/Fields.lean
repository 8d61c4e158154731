import LogTail.Json.Value

/-!
Values with named parts. Such a value is written as an object, or as an array that gives the
parts in their fixed order and may leave out the last ones.
-/
namespace LogTail.Json

structure Parts where
  fields : List (String × Tree)
  positional : Bool

namespace Tree

def repeats (fields : List (String × Tree)) (name : String) : Bool :=
  1 < (fields.filter (·.1 == name)).length

/-- The fields of an object, if every key makes up characters. -/
def keyed? (fields : List (Option String × Tree)) : Option (List (String × Tree)) :=
  fields.mapM fun field => field.1.map (·, field.2)

/-- The parts of a value. Unknown names are passed over; a known name may occur only once, and
an array may not be longer than the list of names. -/
def parts? (names : List String) : Tree → Option Parts
  | .array items => if items.length ≤ names.length then some ⟨names.zip items, true⟩ else none
  | .object fields =>
    (keyed? fields).bind fun fields =>
      if names.any (repeats fields) then none
      else some ⟨fields.filter (names.contains ·.1), false⟩
  | _ => none

def text? : Tree → Option String
  | .string s => s
  | _ => none

def bool? : Tree → Option Bool
  | .bool b => some b
  | _ => none

def list? {α : Type} (read : Tree → Option α) : Tree → Option (List α)
  | .array items => items.mapM read
  | _ => none

/-- A natural number of at most 64 bits, written without point and exponent. -/
def count? : Tree → Option Nat
  | .number n =>
    match number? n with
    | some (.integer (.ofNat v)) => some v
    | _ => none
  | _ => none

def nullable? {α : Type} (read : Tree → Option α) : Tree → Option (Option α)
  | .null => some none
  | t => (read t).map some

end Tree

namespace Parts

def get? (p : Parts) (name : String) : Option Tree :=
  p.fields.lookup name

def required? {α : Type} (p : Parts) (name : String) (read : Tree → Option α) : Option α :=
  (p.get? name).bind read

def optional? {α : Type} (p : Parts) (name : String) (missing : α) (read : Tree → Option α) :
    Option α :=
  match p.get? name with
  | none => some missing
  | some t => read t

end Parts

end LogTail.Json

import LogTail.Level
import LogTail.Json.Printer

/-!
Log records.
-/
namespace LogTail

/-- A record of the log. Its timestamp is a token that sorts as text; attributes are kept in the
order of their keys. -/
structure Record where
  timestamp : String
  level : Level
  message : String
  logger : Option String := none
  caller : Option String := none
  attributes : List (String × Json.Value) := []

namespace Record

def withAttribute (r : Record) (key : String) (value : Json.Value) : Record :=
  { r with attributes := Json.insertField key value r.attributes }

def attributesInline (r : Record) : String :=
  " ".intercalate (r.attributes.map fun (k, v) => k ++ "=" ++ v.render)

end Record

end LogTail

import LogTail.Time.Stamp
import LogTail.View

/-!
The log as plain lines: every record is printed once, as soon as it can be seen. The clock of a
line is the one of universal time.
-/
namespace LogTail.Plain

def levelColumn : Level → String
  | .debug => "DEBUG"
  | .info => "INFO "
  | .warn => "WARN "
  | .error => "ERROR"
  | .fatal => "FATAL"

def line (r : Record) (showAttributes : Bool) : String :=
  Time.displayStamp r.timestamp ++ " " ++ levelColumn r.level ++
    (r.logger.map fun s => " [" ++ s ++ "]").getD "" ++
    " " ++ r.message ++
    (if showAttributes && !r.attributes.isEmpty then " " ++ r.attributesInline else "") ++
    (r.caller.map fun s => " (" ++ s ++ ")").getD ""

/-- The lines of the records seen for the first time, and the number of the newest record printed
so far. -/
def printNew (visible : List Stored) (last : Option Nat) : List String × Option Nat :=
  let fresh := visible.filter fun s => last.all (· < s.seq)
  (fresh.map fun s => line s.record true,
    match fresh.getLast? with
    | some s => some s.seq
    | none => last)

end LogTail.Plain

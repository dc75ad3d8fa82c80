import ChillerGateway.Audit.Timestamp

/-!
# Audit records

One record for each command that changed a device: who changed what, the value before and the
result.
-/

namespace ChillerGateway

/-- A change of a device. -/
structure AuditEntry where
  client : String
  device : String
  command : String
  /-- The value before, if it could be read. -/
  old : Option String
  /-- The result that the client got. -/
  new : String
  deriving DecidableEq, Repr, Inhabited

/-- A change with its time. -/
structure AuditRecord where
  time : Timestamp
  entry : AuditEntry
  deriving DecidableEq, Repr

namespace AuditEntry

/-- What stands for a value that could not be read. -/
def unknown : String := "unknown"

def oldText (e : AuditEntry) : String := e.old.getD unknown

end AuditEntry

namespace AuditRecord

/-- The line of a record. -/
def line (r : AuditRecord) : String :=
  r.time.text ++ " " ++ r.entry.client ++ " " ++ r.entry.device ++ " " ++ r.entry.command ++ " " ++
    r.entry.new ++ " (was " ++ r.entry.oldText ++ ")"

/-- What a log file holds after more records were appended to it. -/
def append (contents : String) (records : List AuditRecord) : String :=
  records.foldl (fun out r => out ++ r.line ++ "\n") contents

end AuditRecord

end ChillerGateway

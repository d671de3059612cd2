import HostBinder.Schema.Rules

set_option autoImplicit false

/-!
The one schema of a running program. Declarations are added at any time; the schema is checked each time it
is read for generation until it has passed once, and from then on it is handed out unchecked.
-/

namespace HostBinder

structure Session where
  schema : Schema
  passed : Bool

namespace Session

def start (schema : Schema) : Session := ⟨schema, false⟩

def insert (s : Session) (n : Node) : Session := { s with schema := s.schema.insert n }

def read (s : Session) : Except (RoutedErrors Violation) Schema × Session :=
  if s.passed then (.ok s.schema, s)
  else
    match s.schema.check with
    | .ok () => (.ok s.schema, { s with passed := true })
    | .error report => (.error report, s)

end Session

def refusalMessage (report : RoutedErrors Violation) : String :=
  "validation failed: " ++ report.render Violation.message

end HostBinder

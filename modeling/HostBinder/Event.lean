import HostBinder.Binder.Diagnostic
import HostBinder.Injection.Registry

set_option autoImplicit false

namespace HostBinder

inductive EventLevel where
  | error
  | warn
  | info
  | debug
  deriving DecidableEq, Repr

def EventLevel.name : EventLevel → String
  | .error => "ERROR"
  | .warn => "WARN"
  | .info => "INFO"
  | .debug => "DEBUG"

inductive FieldValue where
  | text (s : String)
  | number (n : Nat)
  deriving DecidableEq, Repr

inductive Event where
  | diagnosed (d : Diagnostic)
  | binderGenerated (unit : String) (assignments : Nat)
  | binderWritten (unit path : String)
  | registeredTwice (unit : String)
  | injected (host : String)
  | injectionFailed (host : String) (reason : DispatchError)
  deriving DecidableEq, Repr

namespace Event

def level : Event → EventLevel
  | diagnosed d => if d.isError then .error else .warn
  | binderGenerated .. => .debug
  | binderWritten .. => .debug
  | registeredTwice _ => .warn
  | injected _ => .debug
  | injectionFailed .. => .error

def source : Event → String
  | diagnosed _ => "viewbind::build"
  | binderGenerated .. => "viewbind_build"
  | binderWritten .. => "viewbind_build::writer"
  | registeredTwice _ => "viewbind_core::registry"
  | injected _ => "viewbind_core::dispatch"
  | injectionFailed .. => "viewbind_core::dispatch"

def fields : Event → List (String × FieldValue)
  | diagnosed d => [("message", .text d.message)]
  | binderGenerated unit assignments =>
    [("message", .text "binder generated"), ("unit", .text unit), ("assignments", .number assignments)]
  | binderWritten unit path =>
    [("message", .text "binder written"), ("unit", .text unit), ("path", .text path)]
  | registeredTwice unit =>
    [("message", .text "generated binder registered twice; keeping the latest"), ("unit", .text unit)]
  | injected host => [("message", .text "view bindings injected"), ("host", .text host)]
  | injectionFailed host reason =>
    [("message", .text "view injection failed"), ("host", .text host), ("unit", .text reason.unit),
      ("error", .text reason.message)]

end Event

end HostBinder

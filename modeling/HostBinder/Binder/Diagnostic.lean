set_option autoImplicit false

namespace HostBinder

inductive Severity where
  | warning
  | error
  deriving DecidableEq, Repr

def Severity.name : Severity → String
  | .warning => "warning"
  | .error => "error"

inductive Diagnostic where
  | nonconforming (field host type base : String)
  | aborted (host : String) (fields : Nat)
  | unnameable (host : String)
  | unassignable (field host : String)
  | moduleTaken (moduleName host : String)
  | unitNotWritten (host file reason : String)
  | indexNotWritten (file reason : String)
  | remark (severity : Severity) (text : String)
  deriving DecidableEq, Repr

namespace Diagnostic

def severity : Diagnostic → Severity
  | aborted .. => .warning
  | remark s _ => s
  | _ => .error

def isError (d : Diagnostic) : Bool := d.severity = .error

def message : Diagnostic → String
  | nonconforming field host type base =>
    s!"field '{field}' on host '{host}' has type '{type}', which does not extend '{base}'"
  | aborted host fields =>
    s!"no binder generated for '{host}': {fields} field(s) failed the type check"
  | unnameable host => s!"host '{host}' cannot be named in generated code"
  | unassignable field host => s!"field '{field}' on '{host}' cannot be assigned in generated code"
  | moduleTaken moduleName host => s!"binder module '{moduleName}' for '{host}' collides with another host"
  | unitNotWritten host file reason => s!"failed to write binder for '{host}' to {file}: {reason}"
  | indexNotWritten file reason => s!"failed to write binder index {file}: {reason}"
  | remark _ text => text

def text (d : Diagnostic) : String := d.severity.name ++ ": " ++ d.message

end Diagnostic

def errorCount (ds : List Diagnostic) : Nat := ds.countP Diagnostic.isError

def maxSeverity? (ds : List Diagnostic) : Option Severity :=
  if ds.any Diagnostic.isError then some .error else if ds.isEmpty then none else some .warning

end HostBinder

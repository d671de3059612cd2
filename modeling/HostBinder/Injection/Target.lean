import HostBinder.Injection.View
import HostBinder.Schema.Basic

set_option autoImplicit false

/-!
Hosts at run time: values with bound fields and a table of views to bind them to. A binder assigns fields in
order; it stops at the first view of a wrong type, and what it has assigned by then stays assigned.
-/

namespace HostBinder

/-- A type of hosts. The path is what it is known by; `scope` tells apart the types of one path that are
declared in different bodies. -/
structure HostType where
  path : String
  scope : Nat
  deriving DecidableEq, Repr, Inhabited

structure Target where
  type : HostType
  fields : List (String × Bound)
  views : List (Int32 × View)
  deriving DecidableEq, Repr

abbrev Injector := Target → Except InjectError Unit × Target

namespace Target

def fresh (type : HostType) (bindings : List Binding) : Target :=
  ⟨type, bindings.map fun b => (b.field, .unbound b.type), []⟩

def findView? (t : Target) (id : Int32) : Option View := t.views.reverse.lookup id

def field? (t : Target) (name : String) : Option Bound := t.fields.lookup name

def setField (t : Target) (name : String) (b : Bound) : Target :=
  { t with fields := t.fields.map fun f => if f.1 = name then (name, b) else f }

def assign (t : Target) (b : Binding) : Except InjectError Target := do
  return t.setField b.field (← Bound.cast b.type (t.findView? b.id) b.id b.field)

/-- Assign fields in order, up to the first failure. -/
def assignAll : List Binding → Injector
  | [], t => (.ok (), t)
  | b :: bs, t =>
    match t.assign b with
    | .ok t => assignAll bs t
    | .error e => (.error e, t)

end Target

end HostBinder

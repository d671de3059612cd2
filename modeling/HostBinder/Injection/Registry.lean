import HostBinder.Injection.Target
import HostBinder.SortedTable

set_option autoImplicit false

namespace HostBinder

inductive DispatchError where
  | unitNotFound (unit : String)
  | handleMismatch (unit host : String)
  | injection (unit : String) (reason : InjectError)
  deriving DecidableEq, Repr

namespace DispatchError

def unit : DispatchError → String
  | unitNotFound unit => unit
  | handleMismatch unit _ => unit
  | injection unit _ => unit

def reason? : DispatchError → Option InjectError
  | injection _ reason => some reason
  | _ => none

def message : DispatchError → String
  | unitNotFound unit => "no generated binder '" ++ unit ++ "' is registered"
  | handleMismatch unit host => "binder '" ++ unit ++ "' is registered for a host other than '" ++ host ++ "'"
  | injection unit reason => "binder '" ++ unit ++ "' failed: " ++ reason.message

end DispatchError

structure Handle where
  type : HostType
  inject : Injector

structure Registry where
  handles : SortedTable Handle

namespace Registry

def empty : Registry := ⟨∅⟩

def contains (r : Registry) (unit : String) : Bool := r.handles.contains unit

def register (r : Registry) (unit : String) (h : Handle) : Registry := ⟨r.handles.insert unit h⟩

def containsThenRegister (r : Registry) (unit : String) (h : Handle) : Bool × Registry :=
  (r.contains unit, r.register unit h)

def get (r : Registry) (type : HostType) (unit : String) : Except DispatchError Injector :=
  match r.handles.get? unit with
  | none => .error (.unitNotFound unit)
  | some h => if h.type = type then .ok h.inject else .error (.handleMismatch unit type.path)

def units (r : Registry) : List String := r.handles.keys

def size (r : Registry) : Nat := r.handles.size

end Registry

end HostBinder

import HostBinder.Binder.Unit
import HostBinder.Event

set_option autoImplicit false

namespace HostBinder

namespace BinderUnit

def typePath? (u : BinderUnit) : TypeRef → Option String
  | .imported name => (u.imports.entries.find? fun i => i.localName = name).map (·.path)
  | .qualified path => some path

def bindings (u : BinderUnit) : List Binding :=
  u.assignments.filterMap fun a => (u.typePath? a.type).map fun path => ⟨a.field, path, a.id⟩

def injector (u : BinderUnit) : Injector := Target.assignAll u.bindings

end BinderUnit

def HostType.unit (type : HostType) : String := unitName type.path

def Registry.tryInject (r : Registry) (t : Target) : Except DispatchError Unit × Target :=
  match r.get t.type t.type.unit with
  | .error e => (.error e, t)
  | .ok inject =>
    let (result, injected) := inject t
    (result.mapError (.injection t.type.unit), injected)

structure Program where
  registry : Registry
  events : List Event

namespace Program

def tell (p : Program) (e : Event) : Program := { p with events := p.events ++ [e] }

def register (p : Program) (unit : String) (h : Handle) : Program :=
  let registered := { p with registry := p.registry.register unit h }
  if p.registry.contains unit then registered.tell (.registeredTwice unit) else registered

/-- Inject a host by the registry of the program: the result, the host, and the program behind it. -/
def attempt (p : Program) (t : Target) : Except DispatchError Unit × Target × Program :=
  let (result, injected) := p.registry.tryInject t
  (result, injected, p)

def tryInject (p : Program) (t : Target) : Except DispatchError Unit × Target :=
  let (result, injected, _) := p.attempt t
  (result, injected)

theorem attempt_eq (p : Program) (t : Target) :
    p.attempt t = ((p.registry.tryInject t).1, (p.registry.tryInject t).2, p) := rfl

theorem tryInject_eq (p : Program) (t : Target) : p.tryInject t = p.registry.tryInject t := rfl

/-- Inject a host as well as may be: whether it went well, the host, and the program that has told it. -/
def inject (p : Program) (t : Target) : Bool × Target × Program :=
  match p.attempt t with
  | (.ok (), injected, p) => (true, injected, p.tell (.injected t.type.path))
  | (.error e, injected, p) => (false, injected, p.tell (.injectionFailed t.type.path e))

end Program

end HostBinder

import HostBinder.Proofs.Binder.Pass
import HostBinder.Proofs.Binder.UnitCode
import HostBinder.Proofs.Code.Names
import HostBinder.Proofs.Injection.Registrations
import HostBinder.Proofs.Marker.DeclaredPath
import Mathlib.Data.List.Nodup

set_option autoImplicit false

namespace HostBinder

open Code

theorem HostGroup.package_ne_empty {g : HostGroup} (h : g.isNameable = true) : g.package ≠ "" := by
  intro hempty
  have hpath : (pathOfText? "").isSome = false := by decide
  simp [isNameable, hempty, hpath] at h

def BinderUnit.hostName (u : BinderUnit) : String × String := (u.package, u.host)

namespace Generation

variable {g g' : Generation} {conforms : FieldDecl → Bool} {settings : Settings} {roots : CrateRoots}
  {hs : List HostGroup}

end Generation

variable {s : Schema} {settings : Settings} {roots : CrateRoots} {g : Generation} {u : BinderUnit}

namespace BinderUnit.MadeFor

variable {key : String} {h : Host}

end BinderUnit.MadeFor

def BinderUnit.key? (u : BinderUnit) : Option String := u.body.toOption.bind registeredKey?

/-- The registry after all units of a list have registered themselves, as their code says. -/
def Registry.ofUnits (handle : BinderUnit → Handle) (us : List BinderUnit) : Registry :=
  us.foldl (fun r u => match u.key? with
    | some key => r.register key (handle u)
    | none => r) .empty

/-- What the units of a list register. -/
def BinderUnit.entries (handle : BinderUnit → Handle) (us : List BinderUnit) : List (String × Handle) :=
  us.filterMap fun u => u.key?.map fun key => (key, handle u)

/-- How hosts of a type find their unit, whatever the units do: the key that is looked up is that of the unit made
for the host of the given module and name, and of no other unit. -/
structure Generation.Dispatches (g : Generation) (modulePath ident : String) (type : HostType) : Prop where
  key_iff : ∀ u ∈ g.units, u.registeredName = type.unit ↔ u.hostName = (modulePath, ident)
  found : ∀ (handle : BinderUnit → Handle) (t : Target), t.type = type →
    ∀ u ∈ g.units, u.hostName = (modulePath, ident) → (∃ code, u.body = .ok code) → (handle u).type = type →
      (Registry.ofUnits handle g.units).tryInject t =
        (((handle u).inject t).1.mapError (.injection type.unit), ((handle u).inject t).2)
  missing : ∀ (handle : BinderUnit → Handle) (t : Target), t.type = type →
    (∀ u ∈ g.units, u.hostName ≠ (modulePath, ident)) →
      (Registry.ofUnits handle g.units).tryInject t = (.error (.unitNotFound type.unit), t)

end HostBinder

import HostBinder.Binder.Diagnostic
import HostBinder.Binder.Unit
import HostBinder.Settings

set_option autoImplicit false

/-!
From the declarations of one host to its unit. Fields of invalid type are left out, or keep the unit from
being made, or are assigned by full path, as the policy says.
-/

namespace HostBinder

open Code

def HostGroup.isNameable (g : HostGroup) : Bool :=
  (nameOfText? g.host).isSome && (pathOfText? g.package).isSome

def HostGroup.moduleName (g : HostGroup) : String :=
  Text.snakeCase (String.ofList (Text.underscored g.package.toList) ++ "_" ++ binderName g.host)

/-- The imports of a unit: the types of the valid declarations, under names that differ from those of the
host and its binder. -/
def HostGroup.imports (g : HostGroup) (conforms : FieldDecl → Bool) : ImportTable :=
  .withReserved [g.host, binderName g.host] (g.declarations.filter conforms)

def typeRef? (imports : ImportTable) (policy : InvalidFieldPolicy) (type : String) : Option TypeRef :=
  match imports.local? type with
  | some name => some (.imported name)
  | none => if policy = .emit then some (.qualified type) else none

/-- The assignment of a declaration, or that there can be none, or nothing if none is wanted. -/
def assign (host : String) (imports : ImportTable) (policy : InvalidFieldPolicy) (d : FieldDecl) :
    Except MalformedIdent (Option (Except Diagnostic Assignment)) := do
  match typeRef? imports policy d.type with
  | none => return none
  | some ref =>
    if (← fieldIdent? d.field).isNone || ref.tokens?.isNone then
      return some (.error (.unassignable d.field host))
    return some (.ok ⟨d.field, ref, d.id⟩)

structure Emission where
  unit : Option BinderUnit
  diagnostics : List Diagnostic

/-- The unit of a host. `conforms` tells which declarations have a valid type. -/
def HostGroup.emit (g : HostGroup) (conforms : FieldDecl → Bool) (policy : InvalidFieldPolicy)
    (roots : CrateRoots) : Except MalformedIdent Emission := do
  let invalid := g.declarations.countP fun d => !conforms d
  if policy = .abort && invalid ≠ 0 then return ⟨none, [.aborted g.path invalid]⟩
  if !g.isNameable then return ⟨none, [.unnameable g.path]⟩
  let imports := g.imports conforms
  let assigned ← g.declarations.mapM (assign g.path imports policy)
  return {
    unit := some {
      package := g.package
      host := g.host
      name := binderName g.host
      moduleName := g.moduleName
      imports
      assignments := assigned.filterMap fun a => a.bind Except.toOption
      roots }
    diagnostics := assigned.filterMap fun a =>
      match a with
      | some (.error d) => some d
      | _ => none }

end HostBinder

import HostBinder.Binder.Emit
import HostBinder.Event
import HostBinder.Schema.Rules

set_option autoImplicit false

namespace HostBinder

open Code

/-- What a pass has come to: its units, its diagnostics and the events it has told. -/
structure Generation where
  units : List BinderUnit
  diagnostics : List Diagnostic
  events : List Event

namespace Generation

def empty : Generation := ⟨[], [], []⟩

def report (g : Generation) (d : Diagnostic) : Generation :=
  { g with diagnostics := g.diagnostics ++ [d], events := g.events ++ [.diagnosed d] }

def reportAll (g : Generation) (ds : List Diagnostic) : Generation := ds.foldl report g

def addUnit (g : Generation) (u : BinderUnit) : Generation :=
  if g.units.any fun v => v.moduleName = u.moduleName then g.report (.moduleTaken u.moduleName u.hostPath)
  else
    { g with
      units := g.units ++ [u]
      events := g.events ++ [.binderGenerated u.registeredName u.assignments.length] }

def nonconforming (conforms : FieldDecl → Bool) (base : String) (h : HostGroup) : List Diagnostic :=
  (h.declarations.filter fun d => !conforms d).map fun d => .nonconforming d.field h.path d.type base

def addHost (conforms : FieldDecl → Bool) (settings : Settings) (roots : CrateRoots) (g : Generation)
    (h : HostGroup) : Except MalformedIdent Generation := do
  let emission ← h.emit conforms settings.invalidFields roots
  let g := (g.reportAll (nonconforming conforms settings.baseType h)).reportAll emission.diagnostics
  match emission.unit with
  | some u => return g.addUnit u
  | none => return g

end Generation

def generate (schema : Schema) (settings : Settings) (roots : CrateRoots) :
    Except MalformedIdent Generation :=
  let conforms := fun d : FieldDecl => schema.hierarchy.conforms d.type settings.baseType
  (groupByHost schema.declarations).foldlM (Generation.addHost conforms settings roots) .empty

end HostBinder

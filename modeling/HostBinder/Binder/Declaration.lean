import HostBinder.Schema.Basic
import HostBinder.Text.Segments

set_option autoImplicit false

namespace HostBinder

structure FieldDecl where
  package : String
  host : String
  field : String
  type : String
  id : Int32
  deriving DecidableEq, Repr, Inhabited

namespace FieldDecl

def hostPath (d : FieldDecl) : String := memberPath d.package d.host

def typeName (d : FieldDecl) : String := Text.lastSegment d.type

end FieldDecl

def Host.declarations (h : Host) : List FieldDecl :=
  h.bindings.map fun b => ⟨h.name.modulePath, h.name.ident, b.field, b.type, b.id⟩

def Schema.declarations (s : Schema) : List FieldDecl := s.hosts.flatMap fun h => h.2.declarations

structure HostGroup where
  package : String
  host : String
  declarations : List FieldDecl
  deriving DecidableEq, Repr, Inhabited

namespace HostGroup

def path (g : HostGroup) : String := memberPath g.package g.host

def admits (g : HostGroup) (d : FieldDecl) : Bool := g.package = d.package && g.host = d.host

end HostGroup

/-- Put a declaration behind the others of its host; a host without a group gets one at the end. -/
def addToGroups (d : FieldDecl) : List HostGroup → List HostGroup
  | [] => [⟨d.package, d.host, [d]⟩]
  | g :: gs =>
    if g.admits d then { g with declarations := g.declarations ++ [d] } :: gs else g :: addToGroups d gs

/-- The declarations by host, hosts in the order of their first declaration. -/
def groupByHost (ds : List FieldDecl) : List HostGroup := ds.foldl (fun gs d => addToGroups d gs) []

end HostBinder

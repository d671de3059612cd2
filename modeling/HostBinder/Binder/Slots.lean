import HostBinder.Binder.Declaration

set_option autoImplicit false

namespace HostBinder

def FieldDecl.hostKey (d : FieldDecl) : String × String := (d.package, d.host)

def HostGroup.hostKey (g : HostGroup) : String × String := (g.package, g.host)

/-- Groups, and under package and name of a host the slot that its group has among them. -/
structure GroupSlots where
  groups : List HostGroup
  index : List ((String × String) × Nat)

namespace GroupSlots

def empty : GroupSlots := ⟨[], []⟩

/-- The slot of a declaration's host. A host without a slot gets the next one, with a group that is still empty. -/
def slot (s : GroupSlots) (d : FieldDecl) : Nat × GroupSlots :=
  match s.index.lookup d.hostKey with
  | some i => (i, s)
  | none => (s.groups.length, ⟨s.groups ++ [⟨d.package, d.host, []⟩], (d.hostKey, s.groups.length) :: s.index⟩)

/-- Put a declaration behind the others of the group in a slot, if there is such a group. -/
def put? (s : GroupSlots) (i : Nat) (d : FieldDecl) : Option GroupSlots :=
  s.groups[i]?.map fun g => { s with groups := s.groups.set i { g with declarations := g.declarations ++ [d] } }

def add? (s : GroupSlots) (d : FieldDecl) : Option GroupSlots := (s.slot d).2.put? (s.slot d).1 d

end GroupSlots

def groupBySlot? (ds : List FieldDecl) : Option (List HostGroup) :=
  (ds.foldlM GroupSlots.add? .empty).map GroupSlots.groups

end HostBinder

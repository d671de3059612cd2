import HostBinder.Hierarchy

set_option autoImplicit false

namespace HostBinder

def binderSuffix : String := "ViewBinder"

def binderName (host : String) : String := host ++ binderSuffix

def unitName (hostPath : String) : String := hostPath ++ binderSuffix

def memberPath (package name : String) : String := package ++ "::" ++ name

structure TypeName where
  modulePath : String
  ident : String
  deriving DecidableEq, Repr, Inhabited

namespace TypeName

def path (n : TypeName) : String :=
  if n.modulePath = "" then n.ident else n.modulePath ++ "::" ++ n.ident

def le (a b : TypeName) : Bool :=
  a.modulePath < b.modulePath || (a.modulePath == b.modulePath && a.ident ≤ b.ident)

end TypeName

/-- A component type with the path of its supertype; a root has none. -/
structure Component where
  name : TypeName
  extends? : Option String
  deriving DecidableEq, Repr, Inhabited

def Component.isRoot (c : Component) : Bool := c.extends?.isNone

/-- One field that receives a view: its name, the path of its component type and the id looked up. -/
structure Binding where
  field : String
  type : String
  id : Int32
  deriving DecidableEq, Repr, Inhabited

structure Host where
  name : TypeName
  bindings : List Binding
  deriving DecidableEq, Repr, Inhabited

def Host.binding? (h : Host) (field : String) : Option Binding := h.bindings.find? (·.field == field)

inductive Node where
  | component (c : Component)
  | host (h : Host)
  deriving DecidableEq, Repr

inductive NodeKind where
  | component
  | host
  deriving DecidableEq, Repr

namespace Node

def name : Node → TypeName
  | .component c => c.name
  | .host h => h.name

def path (n : Node) : String := n.name.path

def component? : Node → Option Component
  | .component c => some c
  | .host _ => none

def host? : Node → Option Host
  | .host h => some h
  | .component _ => none

def kind : Node → NodeKind
  | .component _ => .component
  | .host _ => .host

end Node

def NodeKind.typeName : NodeKind → String
  | .component => "viewbind_schema::node::component::Component"
  | .host => "viewbind_schema::node::host::Host"

inductive LookupError where
  | notFound (path : String)
  | wrongKind (path : String) (expected : NodeKind)
  deriving DecidableEq, Repr

def LookupError.message : LookupError → String
  | .notFound path => s!"node '{path}' not found"
  | .wrongKind path expected => "node '" ++ path ++ "' is not a " ++ expected.typeName

structure Schema where
  nodes : SortedTable Node
  keyed : ∀ e ∈ nodes.entries, e.1 = e.2.path

namespace Schema

def empty : Schema := ⟨∅, fun _ h => nomatch h⟩

instance : EmptyCollection Schema := ⟨empty⟩

instance : Inhabited Schema := ⟨empty⟩

theorem eq_of_mem_alterEntry {α : Type} {k : String} {x : α} {a : String × α} :
    ∀ {entries : List (String × α)}, a ∈ alterEntry k (fun _ => x) entries → a = (k, x) ∨ a ∈ entries
  | [], h => by simp only [alterEntry, List.mem_singleton] at h; exact Or.inl h
  | (k', y) :: rest, h => by
    rw [alterEntry] at h
    split at h
    · exact (List.mem_cons.1 h).imp_right id
    · split at h
      · exact (List.mem_cons.1 h).imp_right (List.mem_cons_of_mem _)
      · rcases List.mem_cons.1 h with rfl | h
        · exact Or.inr List.mem_cons_self
        · exact (eq_of_mem_alterEntry h).imp_right (List.mem_cons_of_mem _)

def insert (s : Schema) (n : Node) : Schema where
  nodes := s.nodes.insert n.path n
  keyed e h := by
    rcases eq_of_mem_alterEntry h with rfl | h
    · rfl
    · exact s.keyed e h

def ofNodes (nodes : List Node) : Schema := nodes.foldl insert ∅

def size (s : Schema) : Nat := s.nodes.size

def get? (s : Schema) (path : String) : Option Node := s.nodes.get? path

def get (s : Schema) (path : String) : Except LookupError Node :=
  match s.get? path with
  | some n => .ok n
  | none => .error (.notFound path)

def component (s : Schema) (path : String) : Except LookupError Component := do
  match (← s.get path).component? with
  | some c => .ok c
  | none => .error (.wrongKind path .component)

def host (s : Schema) (path : String) : Except LookupError Host := do
  match (← s.get path).host? with
  | some h => .ok h
  | none => .error (.wrongKind path .host)

def components (s : Schema) : List (String × Component) :=
  s.nodes.entries.filterMap fun e => e.2.component?.map (e.1, ·)

def hosts (s : Schema) : List (String × Host) :=
  s.nodes.entries.filterMap fun e => e.2.host?.map (e.1, ·)

def hierarchy (s : Schema) : Hierarchy :=
  s.components.foldl (fun h e => h.insert e.1 e.2.extends?) ∅

end Schema

end HostBinder

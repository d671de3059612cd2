import HostBinder.SortedTable

set_option autoImplicit false

/-!
The supertype edges of component types: each type has at most one supertype, and a type without a recorded
one ends its chain. Walks along the edges are bounded by the number of edges, so a table with a cycle still
gives an answer.
-/

namespace HostBinder

structure Hierarchy where
  edges : SortedTable (Option String)

namespace Hierarchy

def empty : Hierarchy := ⟨∅⟩

instance : EmptyCollection Hierarchy := ⟨empty⟩

def insert (h : Hierarchy) (type : String) (supertype : Option String) : Hierarchy :=
  ⟨h.edges.insert type supertype⟩

def contains (h : Hierarchy) (type : String) : Bool := h.edges.contains type

def supertype? (h : Hierarchy) (type : String) : Option String := (h.edges.get? type).join

def size (h : Hierarchy) : Nat := h.edges.size

def chain (h : Hierarchy) : Nat → Option String → List String
  | 0, _ => []
  | _, none => []
  | n + 1, some type => type :: chain h n (h.supertype? type)

/-- The type and its supertypes, nearest first; one type more than there are edges if the chain goes on. -/
def ancestors (h : Hierarchy) (type : String) : List String := h.chain (h.size + 1) (some type)

def conforms (h : Hierarchy) (type base : String) : Bool := (h.ancestors type).contains base

/-- What a walk up the edges came to: the end of a chain or a settled type, or a type seen before. -/
inductive Walk where
  | ended (trail : List String)
  | looped (cycle : List String)

def walk (h : Hierarchy) (settled : List String) : Nat → List String → Option String → Walk
  | 0, trail, _ => .ended trail
  | _, trail, none => .ended trail
  | n + 1, trail, some type =>
    if settled.contains type then .ended trail
    else if trail.contains type then .looped (trail.dropWhile (· ≠ type) ++ [type])
    else walk h settled n (trail ++ [type]) (h.supertype? type)

/-- The first cycle met by walking up from each of the types in turn; types walked through are settled. -/
def cycleFrom? (h : Hierarchy) (settled : List String) : List String → Option (List String)
  | [] => none
  | type :: rest =>
    match h.walk settled (h.size + 2) [] (some type) with
    | .looped cycle => some cycle
    | .ended trail => cycleFrom? h (settled ++ trail) rest

/-- The cycle entered from the first type, in key order, whose chain never ends, its entry point repeated. -/
def cycle? (h : Hierarchy) : Option (List String) := h.cycleFrom? [] h.edges.keys

end Hierarchy

end HostBinder

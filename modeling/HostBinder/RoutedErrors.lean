import HostBinder.SortedTable

set_option autoImplicit false

/-!
Messages collected under routes. A message recorded on a tree belongs to the tree's own route; a subtree is
kept under one more route segment. Trees are put together route by route, and a subtree without messages
leaves no trace.
-/

namespace HostBinder

inductive RoutedErrors (μ : Type) where
  | node (messages : List μ) (routes : List (String × RoutedErrors μ))

namespace RoutedErrors

variable {μ : Type}

def empty : RoutedErrors μ := .node [] []

instance : Inhabited (RoutedErrors μ) := ⟨empty⟩

def messages : RoutedErrors μ → List μ
  | .node ms _ => ms

def routes : RoutedErrors μ → List (String × RoutedErrors μ)
  | .node _ rs => rs

mutual

def isEmpty : RoutedErrors μ → Bool
  | .node ms rs => ms.isEmpty && areEmpty rs

def areEmpty : List (String × RoutedErrors μ) → Bool
  | [] => true
  | (_, t) :: rest => isEmpty t && areEmpty rest

end

mutual

def count : RoutedErrors μ → Nat
  | .node ms rs => ms.length + countAll rs

def countAll : List (String × RoutedErrors μ) → Nat
  | [] => 0
  | (_, t) :: rest => count t + countAll rest

end

def add (t : RoutedErrors μ) (m : μ) : RoutedErrors μ := .node (t.messages ++ [m]) t.routes

mutual

def merge (t : RoutedErrors μ) : RoutedErrors μ → RoutedErrors μ
  | .node ms rs => .node (t.messages ++ ms) (graft t.routes rs)

/-- Merge each subtree of the second list into the one of the same route in the first. -/
def graft (onto : List (String × RoutedErrors μ)) :
    List (String × RoutedErrors μ) → List (String × RoutedErrors μ)
  | [] => onto
  | (route, t) :: rest =>
    graft (if isEmpty t then onto else alterEntry route (fun old => merge (old.getD empty) t) onto) rest

end

def addChild (t : RoutedErrors μ) (route : String) (child : RoutedErrors μ) : RoutedErrors μ :=
  .node t.messages (graft t.routes [(route, child)])

/-- The text of a route one segment longer; the first segments of a route leave no mark while they are empty. -/
def extendRoute (path route : String) : String :=
  if path = "" then route else path ++ "." ++ route

mutual

/-- The messages with the text of their route behind `path`: own messages first, then subtrees in key order. -/
def flattenFrom (path : String) : RoutedErrors μ → List (String × μ)
  | .node ms rs => ms.map (path, ·) ++ flattenAll path rs

def flattenAll (path : String) : List (String × RoutedErrors μ) → List (String × μ)
  | [] => []
  | (route, t) :: rest => flattenFrom (extendRoute path route) t ++ flattenAll path rest

end

def flatten (t : RoutedErrors μ) : List (String × μ) := t.flattenFrom ""

def line (text : μ → String) (entry : String × μ) : String :=
  if entry.1 = "" then text entry.2 else entry.1 ++ ": " ++ text entry.2

def render (text : μ → String) (t : RoutedErrors μ) : String :=
  String.intercalate "\n" (t.flatten.map (line text))

def result (t : RoutedErrors μ) : Except (RoutedErrors μ) Unit :=
  if t.isEmpty then .ok () else .error t

mutual

def same [BEq μ] : RoutedErrors μ → RoutedErrors μ → Bool
  | .node ms rs, .node ms' rs' => ms == ms' && sameAll rs rs'

def sameAll [BEq μ] : List (String × RoutedErrors μ) → List (String × RoutedErrors μ) → Bool
  | [], [] => true
  | (route, t) :: rest, (route', t') :: rest' => route == route' && same t t' && sameAll rest rest'
  | _, _ => false

end

end RoutedErrors

end HostBinder

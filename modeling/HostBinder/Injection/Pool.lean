import HostBinder.Injection.View

set_option autoImplicit false

namespace HostBinder

structure ViewPool where
  views : List (String × View)
  fields : List (String × Bound)
  next : Nat

namespace ViewPool

def empty : ViewPool := ⟨[], [], 0⟩

def put {α : Type} (name : String) (x : α) (entries : List (String × α)) : List (String × α) :=
  (name, x) :: entries.filter fun e => e.1 != name

def field? (p : ViewPool) (name : String) : Option Bound := p.fields.lookup name

def bind (p : ViewPool) (name : String) (b : Bound) : ViewPool := { p with fields := put name b p.fields }

def create (p : ViewPool) (type : String) (details : List (String × String)) : View × ViewPool :=
  (⟨p.next, type, details⟩, { p with next := p.next + 1 })

def add (p : ViewPool) (name type : String) (details : List (String × String)) : ViewPool :=
  let (v, p) := p.create type details
  { p with views := put name v p.views }

def bindNew (p : ViewPool) (name type : String) (details : List (String × String)) : ViewPool :=
  let (v, p) := p.create type details
  p.bind name ⟨type, some v⟩

def cast (p : ViewPool) (name type view : String) (id : Int32) (label : String) :
    Except InjectError ViewPool := do
  return p.bind name (← Bound.cast type (p.views.lookup view) id label)

/-- How many hold a view: its names in the pool and the fields bound to it. -/
def holders (p : ViewPool) (v : View) : Nat :=
  p.views.countP (fun e => e.2.serial == v.serial) +
    p.fields.countP fun f => f.2.view?.any fun w => w.serial == v.serial

def holdersOf? (p : ViewPool) (name : String) : Option Nat := (p.views.lookup name).map p.holders

def drop (p : ViewPool) (name : String) : ViewPool :=
  { p with fields := p.fields.filter fun f => f.1 != name }

end ViewPool

end HostBinder

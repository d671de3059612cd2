import HostBinder.Text.Quoted
import HostBinder.Text.Segments

set_option autoImplicit false

namespace HostBinder

structure View where
  serial : Nat
  type : String
  details : List (String × String)
  deriving DecidableEq, Repr, Inhabited

namespace View

def typeName (v : View) : String := Text.lastSegment v.type

def showDetail (d : String × String) : String := d.1 ++ ": " ++ Text.Quoted.text d.2

def text (v : View) : String :=
  if v.details.isEmpty then v.typeName
  else v.typeName ++ " \x7b " ++ ", ".intercalate (v.details.map showDetail) ++ " \x7d"

def block (v : View) : List String :=
  if v.details.isEmpty then [v.typeName]
  else (v.typeName ++ " \x7b") :: v.details.map (fun d => "    " ++ showDetail d ++ ",") ++ ["\x7d"]

end View

inductive InjectError where
  | castMismatch (id : Int32) (field expected : String)
  deriving DecidableEq, Repr

def InjectError.message : InjectError → String
  | .castMismatch id field expected =>
    "view " ++ toString id.toInt ++ " bound to field '" ++ field ++ "' is not a " ++ expected

structure Bound where
  type : String
  view? : Option View
  deriving DecidableEq, Repr

namespace Bound

def unbound (type : String) : Bound := ⟨type, none⟩

def isBound (b : Bound) : Bool := b.view?.isSome

/-- The field bound to what was looked up: a view that is missing leaves it unbound, one of another type is
refused. -/
def cast (type : String) (found : Option View) (id : Int32) (field : String) : Except InjectError Bound :=
  match found with
  | none => .ok (unbound type)
  | some v => if v.type = type then .ok ⟨type, some v⟩ else .error (.castMismatch id field type)

def release (b : Bound) : Bound := unbound b.type

/-- Whether two bound fields hold the same view; nothing can be said of a field that holds none. -/
def shares? (a b : Bound) : Option Bool :=
  match a.view?, b.view? with
  | some v, some w => some (v.serial == w.serial)
  | _, _ => none

def text (b : Bound) : String := b.view?.elim "Unbound" fun v => "Bound(" ++ v.text ++ ")"

def pretty (b : Bound) : String :=
  b.view?.elim "Unbound" fun v =>
    "Bound(\n" ++ "\n".intercalate (v.block.map ("    " ++ ·)) ++ ",\n)"

end Bound

end HostBinder

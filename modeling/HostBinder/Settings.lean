set_option autoImplicit false

namespace HostBinder

inductive InvalidFieldPolicy where
  | skip
  | abort
  | emit
  deriving DecidableEq, Repr

def InvalidFieldPolicy.name : InvalidFieldPolicy → String
  | .skip => "skip"
  | .abort => "abort"
  | .emit => "emit"

def InvalidFieldPolicy.ofName? (s : String) : Option InvalidFieldPolicy :=
  [skip, abort, emit].find? fun p => p.name = s

structure Settings where
  baseType : String
  invalidFields : InvalidFieldPolicy
  output : String
  deriving DecidableEq, Repr

def Settings.default : Settings := ⟨"viewbind::ui::View", .skip, "viewbind.rs"⟩

end HostBinder

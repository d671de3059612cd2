import HostBinder.Marker.Arguments
import HostBinder.Marker.Registration

set_option autoImplicit false

namespace HostBinder.Marker

open Code

def supertypeField (roots : CrateRoots) (supertype : Option CodePath) : Tokens :=
  initialised "extends"
    (match supertype with
    | some p => [word "Some", parens (pathConstant roots p.written)]
    | none => [word "None"])

def expandComponent (roots : CrateRoots) (args item : Tokens) : Expansion Tokens := do
  let supertype ← supertypeArgument (← (Argument.ofTokens args).mapError .arguments)
  let i ← markedItem item
  match i.kind with
  | .struct fields =>
    if !i.parameters.isEmpty then refuse (.generic .component)
    expansion .component roots i.name (i.writtenAs (.struct fields)) (supertypeField roots supertype)
  | _ => refuse (.notStruct .component)

end HostBinder.Marker

import HostBinder.Code.Grammar

set_option autoImplicit false

namespace HostBinder

open Code

inductive Marker where
  | component
  | host
  deriving DecidableEq, Repr

def Marker.name : Marker → String
  | .component => "component"
  | .host => "host"

inductive ValueFault where
  | format (found : String)
  | type (found : String)
  | value (text : String)
  | malformed (fault : Fault)
  deriving DecidableEq, Repr

def ValueFault.message : ValueFault → String
  | .format found => "Unexpected meta-item format `" ++ found ++ "`"
  | .type found => "Unexpected type `" ++ found ++ "`"
  | .value text => "Unknown value: `" ++ text ++ "`"
  | .malformed fault => fault.message

inductive Refusal where
  | hostArguments
  | unknownArgument (name : String) (similar : Bool)
  | repeatedArgument
  | literalArgument
  | argument (fault : ValueFault)
  | notStruct (marker : Marker)
  | generic (marker : Marker)
  | positionalFields
  | noBoundField
  | boundTwice
  | bareBind
  | assignedBind
  | malformedId (fault : Fault)
  | notWrapped (field : String)
  deriving DecidableEq, Repr

def Refusal.message : Refusal → String
  | .hostArguments => "#[host] takes no arguments"
  | .unknownArgument name similar =>
    "Unknown field: `" ++ name ++
      if similar then "`. Did you mean `extends`?" else "`. Available values: `extends`"
  | .repeatedArgument => "Duplicate field `extends`"
  | .literalArgument => "Unexpected meta-item format `literal`"
  | .argument fault => fault.message ++ " at extends"
  | .notStruct marker => "#[" ++ marker.name ++ "] can only be used on structs"
  | .generic marker => marker.name ++ " types cannot be generic"
  | .positionalFields => "#[host] structs must have named fields"
  | .noBoundField => "a #[host] struct needs at least one #[bind] field"
  | .boundTwice => "a field can carry at most one #[bind]"
  | .bareBind => "expected attribute arguments in parentheses: #[bind(...)]"
  | .assignedBind => "expected parentheses: #[bind(...)]"
  | .malformedId fault => fault.message
  | .notWrapped field => "#[bind] field '" ++ field ++ "' must have type `Bound<T>`"

inductive ExpansionError where
  | arguments (fault : Fault)
  | item (fault : Fault)
  | refused (refusals : List Refusal)
  | unnameable (name : MalformedIdent)
  deriving DecidableEq, Repr

abbrev Expansion := Except ExpansionError

def refuse {α : Type} (r : Refusal) : Expansion α := .error (.refused [r])

def markedItem (ts : Tokens) : Expansion Item := (itemOf ts).mapError .item

end HostBinder

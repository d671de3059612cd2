import HostBinder.Marker.Arguments
import HostBinder.Marker.Registration

set_option autoImplicit false

namespace HostBinder.Marker

open Code

structure BoundField where
  name : Ident
  type : Tokens
  id : Tokens

def isBind (a : Attribute) : Bool := a.path.isIdent "bind"

def boundType? : Ty → Option Tokens
  | .path p =>
    match p.lastSegment? with
    | some ⟨name, some ⟨_, ⟨[arg], _⟩⟩⟩ => if name = ⟨"Bound", false⟩ then arg.type? else none
    | _ => none
  | _ => none

def bindId (a : Attribute) : Except Refusal Expr :=
  match a.body with
  | .bare => .error .bareBind
  | .value _ => .error .assignedBind
  | .group _ body => (exprOf body).mapError .malformedId

def bindField (f : Field) (bind : Attribute) (others : List Attribute) : Except Refusal BoundField := do
  if !others.isEmpty then throw .boundTwice
  let id ← bindId bind
  match boundType? f.type with
  | some type => return ⟨f.name, type, id.written⟩
  | none => throw (.notWrapped f.name.text)

def boundField? (f : Field) : Option (Except Refusal BoundField) :=
  match f.attributes.filter isBind with
  | [] => none
  | bind :: others => some (bindField f bind others)

def unmarked (f : Field) : Field := { f with attributes := f.attributes.filter fun a => !isBind a }

def boundFields (fields : List Field) : Except (List Refusal) (List BoundField) :=
  let marked := fields.filterMap boundField?
  let refusals := marked.filterMap fun r =>
    match r with
    | .error e => some e
    | .ok _ => none
  if marked.isEmpty then .error [.noBoundField]
  else if refusals.isEmpty then .ok (marked.filterMap Except.toOption)
  else .error refusals

def bindingCode (roots : CrateRoots) (f : BoundField) : Tokens :=
  within roots.schema ["node", "Binding"] ++
    [braces (initialised "ident" [quoted f.name.name] ++ initialised "ty" (pathConstant roots f.type) ++
      initialised "id" f.id)]

def bindingsField (roots : CrateRoots) (fields : List BoundField) : Tokens :=
  initialised "bindings"
    (op "&" ++ [brackets (List.intercalate (op ",") (fields.map (bindingCode roots)))])

def expandHost (roots : CrateRoots) (args item : Tokens) : Expansion Tokens := do
  let args ← (Argument.ofTokens args).mapError .arguments
  if !args.isEmpty then refuse .hostArguments
  let i ← markedItem item
  if !i.parameters.isEmpty then refuse (.generic .host)
  match i.kind with
  | .struct (.named fields) =>
    let bound ← (boundFields fields.items).mapError .refused
    let item := i.writtenAs (.struct (.named { fields with items := fields.items.map unmarked }))
    expansion .host roots i.name item (bindingsField roots bound)
  | .struct _ => refuse .positionalFields
  | _ => refuse (.notStruct .host)

end HostBinder.Marker

import HostBinder.Code.LiteralValue
import HostBinder.Marker.Refusal
import HostBinder.Text.Similarity

set_option autoImplicit false

namespace HostBinder

open Code

inductive ArgumentBody where
  | word
  | list (body : Tokens)
  | value (value : Expr)

inductive Argument where
  | literal
  | named (path : CodePath) (body : ArgumentBody)

def argumentName (p : CodePath) : String :=
  String.intercalate "::" (p.segments.map fun s => s.name.text)

namespace Argument

open Parser

def startsLiteralArgument (ts : Tokens) : Bool :=
  startsLiteral ts && !(startsWordIn ["true", "false"] ts && startsOp "=" (next ts))

def parser (g : Grammar) : Parser Argument := do
  let ts ← rest
  if startsLiteralArgument ts then
    let _ ← Parser.literal
    return .literal
  if !startsIdent ts && !(startsColons ts && startsIdent (next (next ts))) then
    expected "identifier or literal"
  let path ← plainPath startsIdent
  match ← rest with
  | .group _ body :: after =>
    setRest after
    return .named path (.list body)
  | ts =>
    if startsOp "=" ts then
      let _ ← mark "="
      return .named path (.value (← attributeValue g))
    return .named path .word

def ofTokens (ts : Tokens) : Except Fault (List Argument) :=
  parseAll (fun g => do return (← list List.isEmpty "," (parser g)).items) ts

end Argument

def pathOfLiteral (written : Tokens) : Except ValueFault CodePath :=
  match written, kindOfLiteral written with
  | [.literal w], .string =>
    match stringValue? w with
    | some v =>
      match pathOfText? v.text with
      | some p => if v.suffix = "" then .ok p else .error (.value v.text)
      | none => .error (.value v.text)
    | none => .error (.type LiteralKind.string.name)
  | _, kind => .error (.type kind.name)

def pathOfArgument : ArgumentBody → Except ValueFault CodePath
  | .word => .error (.format "word")
  | .list body =>
    match Argument.ofTokens body with
    | .ok _ => .error (.format "list")
    | .error f => .error (.malformed f)
  | .value e =>
    match e.form with
    | .path p => .ok p.path
    | .literal written => pathOfLiteral written
    | form => .error (.type form.name)

/-- What the arguments read so far give: the supertype, whether it was given, and what is wrong. -/
structure ComponentArguments where
  supertype : Option CodePath
  given : Bool
  refusals : List Refusal

namespace ComponentArguments

def empty : ComponentArguments := ⟨none, false, []⟩

def refuse (c : ComponentArguments) (r : Refusal) : ComponentArguments :=
  { c with refusals := c.refusals ++ [r] }

def add (c : ComponentArguments) : Argument → ComponentArguments
  | .literal => c.refuse .literalArgument
  | .named path body =>
    let name := argumentName path
    if name ≠ "extends" then c.refuse (.unknownArgument name (Text.Similarity.similar name "extends"))
    else if c.given then c.refuse .repeatedArgument
    else
      match pathOfArgument body with
      | .ok p => { c with supertype := some p, given := true }
      | .error f => { c with given := true }.refuse (.argument f)

end ComponentArguments

def supertypeArgument (args : List Argument) : Expansion (Option CodePath) :=
  let c := args.foldl ComponentArguments.add .empty
  if c.refusals.isEmpty then .ok c.supertype else .error (.refused c.refusals)

end HostBinder

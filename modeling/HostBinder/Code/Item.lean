import HostBinder.Code.Expression

set_option autoImplicit false

namespace HostBinder.Code

structure Field where
  attributes : List Attribute
  visibility : Tokens
  name : Ident
  type : Ty

inductive Fields where
  | named (fields : Parser.Separated Field)
  | positional (written : Tokens)
  | unit

inductive ItemKind where
  | struct (fields : Fields)
  | enumeration (written : Tokens)
  | union (fields : Parser.Separated Field)

structure Item where
  attributes : List Attribute
  visibility : Tokens
  name : Ident
  parameters : List Tokens
  /-- The clause of bounds; an empty one is not printed. -/
  bounds : Tokens
  kind : ItemKind

namespace Field

def written (f : Field) : Tokens :=
  Parser.attributesWritten f.attributes ++ f.visibility ++ .ident f.name :: op ":" ++ f.type.written

end Field

def fieldsWritten (fields : Parser.Separated Field) : Tokens := [braces (fields.written Field.written ",")]

def parametersWritten (parameters : List Tokens) : Tokens :=
  if parameters.isEmpty then [] else op "<" ++ List.intercalate (op ",") parameters ++ op ">"

def Item.writtenAs (i : Item) (kind : ItemKind) : Tokens :=
  let head (w : String) : Tokens :=
    Parser.attributesWritten i.attributes ++ i.visibility ++ [word w, .ident i.name] ++ parametersWritten i.parameters
  match kind with
  | .struct (.named fs) => head "struct" ++ i.bounds ++ fieldsWritten fs
  | .struct (.positional ts) => head "struct" ++ parens ts :: i.bounds ++ op ";"
  | .struct .unit => head "struct" ++ i.bounds ++ op ";"
  | .enumeration variants => head "enum" ++ i.bounds ++ [braces variants]
  | .union fs => head "union" ++ i.bounds ++ fieldsWritten fs

namespace Parser

def restriction? : Parser (Option Tokens) := fun c =>
  let inner : Parser Tokens := do
    if startsWord "in" (← rest) then
      let start ← keyword "in"
      return start ++ (← plainPath startsPlainSegment).written
    let i ← anyIdent
    if !(← rest).isEmpty then expected "parentheses"
    return [.ident i]
  match c.rest with
  | .group .paren body :: _ =>
    if startsWordIn ["crate", "self", "super"] body then
      match group .paren inner c with
      | .ok (ts, c') => .ok (some ts, c')
      | .error _ => .ok (none, c)
    else if startsWord "in" body then
      (do return some (← group .paren inner) : Parser (Option Tokens)) c
    else .ok (none, c)
  | _ => .ok (none, c)

def visibility : Parser Tokens := do
  if !startsWord "pub" (← rest) then return []
  let start ← keyword "pub"
  return start ++ (← restriction?).getD []

def fieldType (g : Grammar) (unnamed : Bool) (nested : Parser Tokens) : Parser Ty := do
  let ts ← rest
  if unnamed && (startsWord "struct" ts || (startsWord "union" ts && startsGroup .brace (next ts))) then
    let i ← anyIdent
    return .other (.ident i :: (← group .brace nested))
  type g true

/-- A field with a name; `nested` reads the fields of a struct written in place. -/
def namedField (g : Grammar) (nested : Parser Tokens) : Parser Field := do
  let attributes ← outerAttributes g
  let visibility ← visibility
  let unnamed := startsWord "_" (← rest)
  let name ← if unnamed then anyIdent else name
  let _ ← mark ":"
  return ⟨attributes, visibility, name, ← fieldType g unnamed nested⟩

def namedFields (g : Grammar) : Nat → Parser (Separated Field)
  | 0 => throw .tooDeep
  | depth + 1 =>
    list List.isEmpty "," (namedField g do return (← namedFields g depth).written Field.written ",")

def positionalField (g : Grammar) : Parser Tokens := do
  let attributes := attributesWritten (← outerAttributes g)
  let visibility ← visibility
  return attributes ++ visibility ++ (← type g true).written

def genericParameters (g : Grammar) : Parser (List Tokens) := do
  if !startsOp "<" (← rest) then return []
  let _ ← mark "<"
  let parameters ← list startsClose "," (genericParameter g)
  let _ ← mark ">"
  return parameters.items

def boundCondition (g : Grammar) : Parser Tokens := do
  let ts ← rest
  if startsLifetime ts && startsOp ":" (next ts) then
    let l ← lifetime
    let colon ← mark ":"
    let bounds ← chain endsBounds "+" lifetime
    return l ++ colon ++ bounds.written id "+"
  let lifetimes ← binder? g
  let type := (← type g true).written
  let colon ← mark ":"
  let bounds ← chain endsBounds "+" (bound g ⟨false, true⟩)
  return lifetimes ++ type ++ colon ++ bounds.written Bound.written "+"

def boundClause (g : Grammar) : Parser Tokens := do
  if !startsWord "where" (← rest) then return []
  let start ← keyword "where"
  let conditions ← chain endsBounds "," (boundCondition g)
  return if conditions.items.isEmpty then [] else start ++ conditions.written id ","

def structRest (g : Grammar) (depth : Nat) : Parser (Tokens × Fields) := do
  let clause := startsWord "where" (← rest)
  let bounds ← boundClause g
  let ts ← rest
  if !clause && startsGroup .paren ts then
    let fields ← inside .paren (commas (positionalField g))
    let bounds ← boundClause g
    let _ ← mark ";"
    return (bounds, .positional fields)
  else if startsGroup .brace ts then
    return (bounds, .named (← inside .brace (namedFields g depth)))
  else if startsOp ";" ts then
    let _ ← mark ";"
    return (bounds, .unit)
  else expected "one of: `where`, parentheses, curly braces, `;`"

/-- A variant; its visibility is not kept. -/
def variant (g : Grammar) (depth : Nat) : Parser Tokens := do
  let attributes := attributesWritten (← outerAttributes g)
  let _ ← visibility
  let i ← name
  let ts ← rest
  let fields ←
    if startsGroup .brace ts then pure (fieldsWritten (← inside .brace (namedFields g depth)))
    else if startsGroup .paren ts then group .paren (commas (positionalField g))
    else pure []
  let value ← if startsOp "=" (← rest) then pure ((← mark "=") ++ (← expression g true).written) else pure []
  return attributes ++ .ident i :: fields ++ value

def itemRest (g : Grammar) (depth : Nat) (w : String) : Parser (Tokens × ItemKind) := do
  if w = "struct" then
    let (bounds, fields) ← structRest g depth
    return (bounds, .struct fields)
  let bounds ← boundClause g
  if w = "enum" then return (bounds, .enumeration (← inside .brace (commas (variant g depth))))
  return (bounds, .union (← inside .brace (namedFields g depth)))

def item (g : Grammar) (depth : Nat) : Parser Item := do
  let attributes ← outerAttributes g
  let visibility ← visibility
  let w ←
    if startsWord "struct" (← rest) then pure "struct"
    else if startsWord "enum" (← rest) then pure "enum"
    else if startsWord "union" (← rest) then pure "union"
    else expected "one of: `struct`, `enum`, `union`"
  let _ ← anyIdent
  let name ← name
  let parameters ← genericParameters g
  let (bounds, kind) ← itemRest g depth w
  return ⟨attributes, visibility, name, parameters, bounds, kind⟩

end Parser

end HostBinder.Code

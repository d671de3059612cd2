import HostBinder.Code.Attribute

set_option autoImplicit false

namespace HostBinder.Code.Parser

def startsClose (ts : Tokens) : Bool := startsOp ">" ts

def constantArg (g : Grammar) : Parser Tokens := do
  if startsLiteral (← rest) then literal
  else if startsName (← rest) then return [.ident (← name)]
  else if startsGroup .brace (← rest) then group .brace g.statements
  else expected "one of: literal, identifier, curly braces"

def bindingSegment? : Ty → Option Segment
  | .path (.plain ⟨false, [s]⟩) => some s
  | _ => none

def boundTo (g : Grammar) (s : Segment) : Parser GenericArg := do
  let eq ← mark "="
  let value ←
    if startsLiteral (← rest) || startsGroup .brace (← rest) then constantArg g
    else return .other (s.written ++ eq ++ (← g.type true).written)
  return .other (s.written ++ eq ++ value)

def genericArg (g : Grammar) : Parser GenericArg := do
  let ts ← rest
  if startsLifetime ts && !startsOp "+" (next ts) then return .lifetime (← lifetime)
  if startsLiteral ts || startsGroup .brace ts then return .other (← constantArg g)
  let type ← g.type true
  match bindingSegment? type with
  | some s =>
    if startsOp "=" (← rest) then boundTo g s
    else if startsOp ":" (← rest) then return .other (s.written ++ (← mark ":") ++ (← g.bounds))
    else return .type type.written
  | none => return .type type.written

def genericArgs (g : Grammar) : Parser GenericArgs := do
  let colons ← mark? "::"
  let _ ← mark "<"
  let args ← list startsClose "," (genericArg g)
  let _ ← mark ">"
  return ⟨!colons.isEmpty, args⟩

def startsArgs (inExpr : Bool) (ts : Tokens) : Bool :=
  (!inExpr && startsOp "<" ts && !startsOp "<=" ts && !startsOp "<<=" ts) ||
    (startsColons ts && startsOp "<" (next (next ts)))

def segment (g : Grammar) (inExpr : Bool) : Parser Segment := do
  if startsWordIn ["super", "self", "crate", "try"] (← rest) then return ⟨← anyIdent, none⟩
  let i ← if startsWord "Self" (← rest) then anyIdent else name
  if startsArgs inExpr (← rest) then return ⟨i, some (← genericArgs g)⟩
  return ⟨i, none⟩

/-- Segments for as long as a path separator follows; `ends` stops the path before one. -/
def segmentsLoop (item : Parser Segment) (ends : Tokens → Bool) : Nat → Parser (List Segment)
  | 0 => throw .tooDeep
  | fuel + 1 => do
    let s ← item
    if !startsColons (← rest) || ends (← rest) then return [s]
    let _ ← mark "::"
    return s :: (← segmentsLoop item ends fuel)

def segments (g : Grammar) (inExpr : Bool) (ends : Tokens → Bool) :
    Parser (List Segment) := do
  segmentsLoop (segment g inExpr) ends ((← rest).length + 1)

def path (g : Grammar) (inExpr : Bool) : Parser CodePath := do
  let root ← mark? "::"
  return ⟨!root.isEmpty, ← segments g inExpr fun ts => startsGroup .paren (next (next ts))⟩

def qualifiedPath (g : Grammar) (inExpr : Bool) : Parser QualifiedPath := do
  if !startsOp "<" (← rest) then return .plain (← path g inExpr)
  let _ ← mark "<"
  let type := (← g.type true).written
  let trait? ←
    if startsWord "as" (← rest) then
      let _ ← keyword "as"
      pure (some (← path g false))
    else pure none
  let _ ← mark ">"
  let _ ← mark "::"
  let rest ← segments g inExpr fun _ => false
  match trait? with
  | some p => return .ofTrait type p rest
  | none => return .ofType type rest

structure Bound where
  written : Tokens
  isTrait : Bool

/-- Which bounds are allowed beside traits and lifetimes. -/
structure BoundRules where
  captures : Bool
  constness : Bool

def returnType (g : Grammar) : Parser Tokens := do
  if startsOp "->" (← rest) then return (← mark "->") ++ (← g.type false).written
  return []

def traitParameters (g : Grammar) : Parser Tokens := do
  let inputs ← group .paren (commas do return (← g.type true).written)
  return inputs ++ (← returnType g)

def binder (g : Grammar) : Parser Tokens := do
  let start ← keyword "for"
  let lt ← mark "<"
  let parameters ← list startsClose "," g.parameter
  return start ++ lt ++ parameters.written id "," ++ (← mark ">")

def binder? (g : Grammar) : Parser Tokens := do
  if startsWord "for" (← rest) then binder g else return []

def constness (allowed : Bool) : Parser Tokens := do
  if startsGroup .bracket (← rest) then
    let t ← group .bracket (keyword "const")
    if !allowed then throw (.notAllowed "`[const]` is not allowed here")
    return t
  if startsWord "const" (← rest) then
    let t ← keyword "const"
    if !allowed then throw (.notAllowed "`const` is not allowed here")
    return t
  return []

def traitBound (g : Grammar) (rules : BoundRules) : Parser Tokens := do
  let lifetimes ← binder? g
  let const ← constness rules.constness
  let modifier ← mark? "?"
  let later ← if lifetimes.isEmpty && !modifier.isEmpty then binder? g else pure []
  let p ← path g false
  let bare := (p.segments.getLast?.map fun s => s.arguments.isNone).getD false
  let ts ← rest
  let parameters ←
    if bare && (startsGroup .paren ts || (startsColons ts && startsGroup .paren (next (next ts)))) then
      let _ ← mark? "::"
      traitParameters g
    else pure []
  if !lifetimes.isEmpty && !modifier.isEmpty then
    throw (.notAllowed "`for<...>` binder not allowed with `?` trait polarity modifier")
  return const ++ modifier ++ lifetimes ++ later ++ p.written ++ parameters

def capture : Parser Tokens := do
  let start ← keyword "use"
  let lt ← mark "<"
  let items ← list startsClose "," do
    if startsLifetime (← rest) then lifetime else return [.ident (← anyIdent)]
  return start ++ lt ++ items.written id "," ++ (← mark ">")

def bound (g : Grammar) (rules : BoundRules) : Parser Bound := do
  if startsLifetime (← rest) then return ⟨← lifetime, false⟩
  else if startsWord "use" (← rest) then
    let t ← capture
    if rules.captures then return ⟨t, false⟩
    throw (.notAllowed "`use<...>` precise capturing syntax is not allowed here")
  else if startsGroup .paren (← rest) then return ⟨← group .paren (traitBound g rules), true⟩
  else return ⟨← traitBound g rules, true⟩

def startsBound (rules : BoundRules) (ts : Tokens) : Bool :=
  startsIdent ts || startsColons ts || startsOp "?" ts || startsLifetime ts || startsGroup .paren ts ||
    (rules.constness && (startsGroup .bracket ts || startsWord "const" ts))

def endsBounds (ts : Tokens) : Bool :=
  ts.isEmpty || startsGroup .brace ts || startsOpIn [",", ";", "="] ts || startsColon ts

def argumentBounds (g : Grammar) : Parser Tokens :=
  return (← chain (fun ts => startsOpIn [",", ">", "="] ts) "+" (bound g ⟨false, true⟩)).written Bound.written "+"

def genericParameter (g : Grammar) : Parser Tokens := do
  let attributes := attributesWritten (← outerAttributes g)
  let ts ← rest
  if startsLifetime ts then
    let l ← lifetime
    if !startsOp ":" (← rest) then return attributes ++ l
    let colon ← mark ":"
    let bounds ← chain (fun ts => startsOpIn [",", ">"] ts) "+" lifetime
    return attributes ++ l ++ colon ++ bounds.written id "+"
  else if startsName ts then
    let i ← name
    let bounds ←
      if startsOp ":" (← rest) then
        pure ((← mark ":") ++ (← argumentBounds g))
      else pure []
    let default ←
      if startsOp "=" (← rest) then pure ((← mark "=") ++ (← g.type true).written) else pure []
    return attributes ++ [.ident i] ++ bounds ++ default
  else if startsWord "const" ts then
    let start ← keyword "const"
    let i ← name
    let colon ← mark ":"
    let type := (← g.type true).written
    let default ← if startsOp "=" (← rest) then pure ((← mark "=") ++ (← constantArg g)) else pure []
    return attributes ++ start ++ [.ident i] ++ colon ++ type ++ default
  else if startsWord "_" ts then
    let i ← anyIdent
    return attributes ++ [.ident i]
  else expected "one of: lifetime, identifier, `const`"

/-- Bounds of a type, joined by plus signs if `joined` lets them; some of them has to be a trait. -/
def typeBounds (g : Grammar) (joined : Bool) (rules : BoundRules) (reason : String) : Parser Tokens := do
  let first ← bound g rules
  let (bounds, written) ←
    if joined && startsOp "+" (← rest) then
      let plus ← mark "+"
      let others ← chain (fun ts => !startsBound rules ts) "+" (bound g rules)
      pure (first :: others.items, first.written ++ plus ++ others.written Bound.written "+")
    else pure ([first], first.written)
  if bounds.any (·.isTrait) then return written
  throw (.notAllowed reason)

def objectBounds (g : Grammar) (joined : Bool) : Parser Tokens :=
  typeBounds g joined ⟨false, false⟩ "at least one trait is required for an object type"

inductive Parenthesised where
  | complete (written : Tokens)
  | bound (written : Tokens)
  | type (type : Ty)

def parenthesised (g : Grammar) : Parser Parenthesised := do
  let ts ← rest
  if ts.isEmpty then return .complete []
  if startsLifetime ts then return .complete (← objectBounds g true)
  if startsOp "?" ts then return .bound (← traitBound g ⟨false, false⟩)
  let first ← g.type true
  if !startsOp "," (← rest) then return .type first
  let comma ← mark ","
  return .complete (first.written ++ comma ++ (← commas do return (← g.type true).written))

def boundType (g : Grammar) (joined : Bool) (first : Tokens) : Parser Ty := do
  if !joined || !startsOp "+" (← rest) then return .bound first
  let plus ← mark "+"
  let others ← chain (fun _ => false) "+" (bound g ⟨false, false⟩)
  return .other (first ++ plus ++ others.written Bound.written "+")

def parenType (g : Grammar) (joined : Bool) : Parser Ty := do
  match ← inside .paren (parenthesised g) with
  | .complete ts => return .other [parens ts]
  | .bound ts => boundType g true [parens ts]
  | .type t =>
    let plus := joined && startsOp "+" (← rest)
    match t with
    | .path (.plain p) => if plus then boundType g true [parens p.written] else return .other [parens p.written]
    | .bound ts => if plus then boundType g true [parens ts] else return .other [parens ts]
    | t => return .other [parens t.written]

def functionParameter (g : Grammar) : Parser Tokens := do
  let attributes := attributesWritten (← outerAttributes g)
  let ts ← rest
  if startsOp "..." ts then return attributes ++ (← mark "...")
  if startsWord "mut" ts && startsWord "self" (next ts) || startsWord "self" ts && !startsColons (next ts) then
    let mutability ← keyword? "mut"
    let self ← keyword "self"
    let type ←
      if startsColon (← rest) then pure ((← mark ":") ++ (← g.type true).written) else pure []
    return attributes ++ mutability ++ self ++ type
  if (startsName ts || startsWord "_" ts) && startsColon (next ts) then
    let i ← anyIdent
    let colon ← mark ":"
    if startsOp "..." (← rest) then return attributes ++ [.ident i] ++ colon ++ (← mark "...")
    return attributes ++ [.ident i] ++ colon ++ (← g.type true).written
  return attributes ++ (← g.type true).written

def convention : Parser Tokens := do
  let start ← keyword? "extern"
  match start, ← rest with
  | _ :: _, .literal w :: ts =>
    if w.startsWith "\x22" || w.startsWith "r" then
      setRest ts
      return start ++ [.literal w]
    return start
  | start, _ => return start

def functionType (g : Grammar) : Parser Tokens := do
  let safety ← keyword? "unsafe"
  let abi ← convention
  let start ← keyword "fn"
  let inputs ← group .paren (commas (functionParameter g))
  return safety ++ abi ++ start ++ inputs ++ (← returnType g)

def pathType (g : Grammar) (joined : Bool) (lifetimes : Tokens) : Parser Ty := do
  let p ← qualifiedPath g false
  match p with
  | .plain path =>
    let ts ← rest
    if startsOp "!" ts && !startsOp "!=" ts && path.isPlain then
      let bang ← mark "!"
      let (d, body) ← anyGroup
      return .other (path.written ++ bang ++ [.group d body])
    if !lifetimes.isEmpty then boundType g joined (lifetimes ++ path.written)
    else if joined && startsOp "+" ts then
      let plus ← mark "+"
      let others ← chain (fun ts => !startsBound ⟨false, false⟩ ts) "+" (bound g ⟨false, false⟩)
      return .other (path.written ++ plus ++ others.written Bound.written "+")
    else return .path p
  | p => return .path p

def arrayType (g : Grammar) : Parser Tokens := do
  let element := (← g.type true).written
  if !startsOp ";" (← rest) then return element
  let semicolon ← mark ";"
  return element ++ semicolon ++ (← g.expr true).written

def pointerType (g : Grammar) : Parser Tokens := do
  let star ← mark "*"
  let access ←
    if startsWord "const" (← rest) then keyword "const"
    else if startsWord "mut" (← rest) then keyword "mut"
    else expected "`const` or `mut`"
  return star ++ access ++ (← g.type false).written

def referenceType (g : Grammar) : Parser Tokens := do
  let amp ← mark "&"
  let l ← lifetime?
  let access ← keyword? "mut"
  return amp ++ l ++ access ++ (← g.type false).written

def startsPath (ts : Tokens) : Bool :=
  startsName ts || startsWordIn pathWords ts || startsColons ts || startsOp "<" ts

def typeStarts : String :=
  "one of: `for`, parentheses, `fn`, `unsafe`, `extern`, identifier, `::`, `<`, `dyn`, square brackets, `*`, `&`, `!`, `impl`, `_`, lifetime"

def type (g : Grammar) (joined : Bool) : Parser Ty := do
  let lifetimes ← binder? g
  let ts ← rest
  if startsWordIn ["fn", "unsafe", "extern"] ts then return .other (lifetimes ++ (← functionType g))
  if !lifetimes.isEmpty then
    if startsName ts || startsWordIn pathWords ts then pathType g joined lifetimes
    else expected "one of: identifier, `fn`, `unsafe`, `extern`, `super`, `self`, `Self`, `crate`"
  else if startsGroup .paren ts then parenType g joined
  else if startsPath ts then pathType g joined []
  else if startsWord "dyn" ts then
    let start ← keyword "dyn"
    let star ← mark? "*"
    return .other (start ++ star ++ (← objectBounds g joined))
  else if startsGroup .bracket ts then return .other (← group .bracket (arrayType g))
  else if startsOp "*" ts then return .other (← pointerType g)
  else if startsOp "&" ts then return .other (← referenceType g)
  else if startsOp "!" ts then return .other (← mark "!")
  else if startsWord "impl" ts then
    let start ← keyword "impl"
    return .other (start ++ (← typeBounds g joined ⟨true, true⟩ "at least one trait must be specified"))
  else if startsWord "_" ts then return .other (← keyword "_")
  else if startsLifetime ts then return .other (← objectBounds g true)
  else expected typeStarts

end HostBinder.Code.Parser

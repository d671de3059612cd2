import HostBinder.Code.Type

set_option autoImplicit false

namespace HostBinder.Code.Parser

def startsAlternative (ts : Tokens) : Bool :=
  startsOp "|" ts && !startsOp "||" ts && !startsOp "|=" ts

def alternativesLoop (g : Grammar) : Nat → Parser Tokens
  | 0 => throw .tooDeep
  | fuel + 1 => do
    let p ← g.pattern
    if !startsAlternative (← rest) then return p
    let bar ← mark "|"
    return p ++ bar ++ (← alternativesLoop g fuel)

def alternatives (g : Grammar) : Parser Tokens := do
  let lead ← if startsAlternative (← rest) then mark "|" else pure []
  return lead ++ (← alternativesLoop g ((← rest).length + 1))

def rangeMark : Parser (Tokens × Bool) := do
  let ts ← rest
  if startsOp "..=" ts then return (← mark "..=", true)
  else if startsOp ".." ts && !startsOp "..." ts then return (← mark "..", false)
  else expected "`..` or `..=`"

def patternRangeMark : Parser (Tokens × Bool) := do
  if startsOp "..." (← rest) then return (← mark "...", true) else rangeMark

def rangeBound? (g : Grammar) : Parser (Option Tokens) := do
  let ts ← rest
  if ts.isEmpty || startsOpIn ["|", "=", ",", ";"] ts || startsColon ts || startsWord "if" ts then return none
  if startsLiteral ts then return some (← literal)
  else if startsPath ts then return some (← qualifiedPath g true).written
  else if startsWord "const" ts then
    let start ← keyword "const"
    return some (start ++ (← group .brace g.statements))
  else expected "one of: literal, identifier, `::`, `<`, `self`, `Self`, `super`, `crate`, `const`"

def rangeRest (g : Grammar) (start : Tokens) : Parser Tokens := do
  let (dots, closed) ← patternRangeMark
  match ← rangeBound? g with
  | some stop => return start ++ dots ++ stop
  | none => if closed then throw (.notAllowed "expected range upper bound") else return start ++ dots

def member : Parser (Tokens × Bool) := do
  match ← rest with
  | .literal w :: ts =>
    if isNumeral w then
      setRest ts
      return ([.literal w], false)
    expected "identifier or integer"
  | ts => if startsName ts then return ([.ident (← name)], true) else expected "identifier or integer"

def fieldPattern (g : Grammar) : Parser Tokens := do
  let attributes := attributesWritten (← outerAttributes g)
  if startsOp ".." (← rest) then return attributes ++ (← mark "..")
  let box ← keyword? "box"
  let byRef ← keyword? "ref"
  let mutability ← keyword? "mut"
  let marked := box ++ byRef ++ mutability
  let (m, named) ← if marked.isEmpty then member else pure ([.ident (← name)], true)
  if (marked.isEmpty && startsOp ":" (← rest)) || !named then
    let colon ← mark ":"
    return attributes ++ m ++ colon ++ (← alternatives g)
  return attributes ++ marked ++ m

def pathPattern (g : Grammar) : Parser Tokens := do
  let p ← qualifiedPath g true
  let ts ← rest
  let plain := (p.plain?.map CodePath.isPlain).getD false
  if plain && startsOp "!" ts && !startsOp "!=" ts then
    let bang ← mark "!"
    let (d, body) ← anyGroup
    return p.written ++ bang ++ [.group d body]
  else if startsGroup .brace ts then return p.written ++ (← group .brace (commas (fieldPattern g)))
  else if startsGroup .paren ts then return p.written ++ (← group .paren (commas (alternatives g)))
  else if startsOp ".." ts then rangeRest g p.written
  else return p.written

def identPattern (g : Grammar) : Parser Tokens := do
  let byRef ← keyword? "ref"
  let mutability ← keyword? "mut"
  let i ← if startsWord "self" (← rest) then anyIdent else name
  let sub ← if startsOp "@" (← rest) then pure ((← mark "@") ++ (← g.pattern)) else pure []
  return byRef ++ mutability ++ [.ident i] ++ sub

def pattern (g : Grammar) : Parser Tokens := do
  let ts ← rest
  let after := next ts
  if startsName ts && (startsColons after || startsOpIn ["!", ".."] after || startsGroup .brace after ||
        startsGroup .paren after) ||
      startsWord "self" ts && startsColons after || startsColons ts || startsOp "<" ts ||
      startsWordIn ["Self", "super", "crate"] ts then
    pathPattern g
  else if startsWord "_" ts then keyword "_"
  else if startsWord "box" ts then
    let start ← keyword "box"
    return start ++ (← g.pattern)
  else if startsOp "-" ts || startsLiteral ts || startsWord "const" ts then
    let start ← rangeBound? g
    if startsOp ".." (← rest) then rangeRest g (start.getD []) else return start.getD []
  else if startsWordIn ["ref", "mut", "self"] ts || startsName ts then identPattern g
  else if startsOp "&" ts then
    let amp ← mark "&"
    let access ← keyword? "mut"
    return amp ++ access ++ (← g.pattern)
  else if startsGroup .paren ts then group .paren (commas (alternatives g))
  else if startsGroup .bracket ts then group .bracket (commas (alternatives g))
  else if startsOp ".." ts && !startsOp "..." ts then
    let (dots, closed) ← rangeMark
    match ← rangeBound? g with
    | some stop => return dots ++ stop
    | none => if closed then throw (.notAllowed "expected range upper bound") else return dots
  else expected "one of: identifier, `::`, `<`, `_`, literal, `ref`, `mut`, `&`, parentheses, square brackets, `..`, `const`"

end HostBinder.Code.Parser

import HostBinder.Code.Item

set_option autoImplicit false

namespace HostBinder.Code.Parser

/-- What an import brings in: a name, everything, or several trees behind a common path. A tree starts at
the root only where `rooted` lets it. -/
def importTreeLoop : Nat → Bool → Parser Tokens
  | 0, _ => throw .tooDeep
  | fuel + 1, rooted => do
    let ts ← rest
    if startsOp "*" ts then mark "*"
    else if startsGroup .brace ts then
      group .brace <| commas do
        let root ← if rooted then mark? "::" else pure []
        return root ++ (← importTreeLoop fuel (rooted && root.isEmpty))
    else if startsName ts || startsWordIn ["self", "super", "crate", "try"] ts then
      let i ← anyIdent
      if startsColons (← rest) then
        let colons ← mark "::"
        return .ident i :: colons ++ (← importTreeLoop fuel false)
      else if startsWord "as" (← rest) then
        let as ← keyword "as"
        let renamed ← if startsWord "_" (← rest) then anyIdent else name
        return .ident i :: as ++ [.ident renamed]
      else return [.ident i]
    else expected "one of: identifier, `self`, `super`, `crate`, `try`, `*`, curly braces"

def importItem : Parser Tokens := do
  let start ← keyword "use"
  let root ← mark? "::"
  return start ++ root ++ (← importTreeLoop (sizeOf (← rest) + 1) root.isEmpty) ++ (← mark ";")

def constantType (g : Grammar) : Parser Tokens := do
  if startsOp ":" (← rest) then return (← mark ":") ++ (← type g true).written
  return []

def constantRest (g : Grammar) (typed : Bool) : Parser Tokens := do
  if typed && startsOp ";" (← rest) then return ← mark ";"
  return (← mark "=") ++ (← expression g true).written ++ (← mark ";")

def constantItem (g : Grammar) : Parser Tokens := do
  let start ← keyword "const"
  let i ← if startsWord "_" (← rest) then anyIdent else name
  let type ← constantType g
  return start ++ .ident i :: type ++ (← constantRest g !type.isEmpty)

def staticItem (g : Grammar) : Parser Tokens := do
  let start ← keyword "static"
  let access ← keyword? "mut"
  let i ← name
  let type ← constantType g
  return start ++ access ++ .ident i :: type ++ (← constantRest g !type.isEmpty)

def aliasItem (g : Grammar) : Parser Tokens := do
  let start ← keyword "type"
  let i ← name
  let parameters := parametersWritten (← genericParameters g)
  let before ← boundClause g
  let eq ← mark "="
  let type := (← type g true).written
  let after ← boundClause g
  return start ++ .ident i :: parameters ++ before ++ eq ++ type ++ after ++ (← mark ";")

def receiver (g : Grammar) : Parser Tokens := do
  let reference ←
    if startsOp "&" (← rest) then pure ((← mark "&") ++ (← lifetime?)) else pure []
  let access ← keyword? "mut"
  let self ← keyword "self"
  if startsColons (← rest) then expected "`,`" else
  if reference.isEmpty && startsOp ":" (← rest) then
    return access ++ self ++ (← mark ":") ++ (← type g true).written
  return reference ++ access ++ self

def parameter (g : Grammar) : Parser Tokens := do
  let attributes := attributesWritten (← outerAttributes g)
  if startsOp "..." (← rest) then return attributes ++ (← mark "...")
  match ← attempt (receiver g) with
  | some ts => return attributes ++ ts
  | none =>
    let p ← pattern g
    let colon ← mark ":"
    let type ← if startsOp "..." (← rest) then mark "..." else pure (← type g true).written
    return attributes ++ p ++ colon ++ type

def functionItem (g : Grammar) : Parser Tokens := do
  let constness ← keyword? "const"
  let async ← keyword? "async"
  let safety ← keyword? "unsafe"
  let abi ← convention
  let start ← keyword "fn"
  let i ← name
  let parameters := parametersWritten (← genericParameters g)
  let inputs ← group .paren (commas (parameter g))
  let result ← returnType g
  let bounds ← boundClause g
  let body ← if startsOp ";" (← rest) then mark ";" else annotatedBlock g
  return constness ++ async ++ safety ++ abi ++ start ++ .ident i :: parameters ++ inputs ++ result ++ bounds ++ body

def externItem : Parser Tokens := do
  let start ← keyword "extern"
  let crate ← keyword "crate"
  let i ← if startsWord "self" (← rest) then anyIdent else name
  let renamed ←
    if startsWord "as" (← rest) then
      let as ← keyword "as"
      let a ← if startsWord "_" (← rest) then anyIdent else name
      pure (as ++ [.ident a])
    else pure []
  return start ++ crate ++ .ident i :: renamed ++ (← mark ";")

/-- Whether a function comes, behind words that say of what sort it is. -/
def startsFunction (ts : Tokens) : Bool :=
  let ts := if startsWord "const" ts then next ts else ts
  let ts := if startsWord "async" ts then next ts else ts
  let ts := if startsWord "unsafe" ts then next ts else ts
  let afterExtern := next ts
  startsWord "fn" ts ||
    (startsWord "extern" ts && (startsWord "fn" afterExtern || (startsLiteral afterExtern && startsWord "fn" (next afterExtern))))

def declaration (g : Grammar) : Parser Tokens := do
  let visible ← visibility
  let ts ← rest
  let written ←
    if startsFunction ts then functionItem g
    else if startsWord "extern" ts then externItem
    else if startsWord "use" ts then importItem
    else if startsWord "static" ts then staticItem g
    else if startsWord "const" ts then constantItem g
    else if startsWord "type" ts then aliasItem g
    else
      let i ← item g (sizeOf ts + 1)
      pure (i.writtenAs i.kind)
  return visible ++ written

end HostBinder.Code.Parser

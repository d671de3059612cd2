import HostBinder.Code.Pattern

set_option autoImplicit false

namespace HostBinder.Code.Parser

def assignStrength : Nat := 1

def rangeStrength : Nat := 2

def comparisonStrength : Nat := 6

def castStrength : Nat := 13

/-- The binary operators with their strength; one that starts like another comes after the longer one. -/
def binaryOps : List (String × Nat) := [
  ("+=", 1), ("-=", 1), ("*=", 1), ("/=", 1), ("%=", 1), ("^=", 1), ("&=", 1), ("|=", 1), ("<<=", 1),
  (">>=", 1), ("&&", 4), ("||", 3), ("<<", 10), (">>", 10), ("==", 6), ("<=", 6), ("!=", 6), (">=", 6),
  ("+", 11), ("-", 11), ("*", 12), ("/", 12), ("%", 12), ("^", 8), ("&", 9), ("|", 7), ("<", 6), (">", 6)]

def binaryOp? (ts : Tokens) : Option (String × Nat) := binaryOps.find? fun o => startsOp o.1 ts

def startsAssignment (ts : Tokens) : Bool := startsOp "=" ts && !startsOp "=>" ts

def strength (ts : Tokens) : Nat :=
  match binaryOp? ts with
  | some o => o.2
  | none =>
    if startsAssignment ts then assignStrength
    else if startsOp ".." ts then rangeStrength
    else if startsWord "as" ts then castStrength
    else 0

def block (g : Grammar) : Parser Tokens := group .brace g.statements

def annotatedBlock (g : Grammar) : Parser Tokens :=
  group .brace do return (← innerAttributes g) ++ (← g.statements)

def startsExpr (ts : Tokens) : Bool :=
  (startsIdent ts && !startsWord "as" ts) || startsGroup .paren ts || startsGroup .brace ts ||
    startsGroup .bracket ts || startsLiteral ts || (startsOp "!" ts && !startsOp "!=" ts) ||
    (startsOp "-" ts && !startsOp "-=" ts && !startsOp "->" ts) || (startsOp "*" ts && !startsOp "*=" ts) ||
    (startsOp "|" ts && !startsOp "|=" ts) || (startsOp "&" ts && !startsOp "&=" ts) || startsOp ".." ts ||
    (startsOp "<" ts && !startsOp "<=" ts && !startsOp "<<=" ts) || startsColons ts || startsLifetime ts ||
    startsOp "#" ts

def fieldNumbers? (written : String) : Option (Tokens × Bool) :=
  let parts := written.toList.splitOn '.'
  let open_ := parts.getLast? == some []
  let parts := if open_ then parts.dropLast else parts
  if parts.length + (if open_ then 1 else 0) < 2 then none
  else if parts.all fun p => p.all Char.isDigit && !p.isEmpty then
    some (List.intercalate (op ".") (parts.map fun p => [.literal (String.ofList p)]), open_)
  else none

def accessed (g : Grammar) (e : Expr) (dot : Tokens) : Parser Expr := do
  if startsWord "await" (← rest) then return ⟨.await, e.written ++ dot ++ (← keyword "await")⟩
  let (m, named) ← member
  let ts ← rest
  let turbofish ← if named && startsColons ts then pure (← genericArgs g).written else pure []
  if named && (!turbofish.isEmpty || startsGroup .paren (← rest)) then
    let args ← group .paren (commas do return (← g.expr true).written)
    return ⟨.methodCall, e.written ++ dot ++ m ++ turbofish ++ args⟩
  return ⟨.field, e.written ++ dot ++ m⟩

def trailersLoop (g : Grammar) : Nat → Expr → Parser Expr
  | 0, _ => throw .tooDeep
  | fuel + 1, e => do
    let ts ← rest
    if startsGroup .paren ts then
      let args ← group .paren (commas do return (← g.expr true).written)
      trailersLoop g fuel ⟨.call, e.written ++ args⟩
    else if startsOp "." ts && !startsOp ".." ts && !e.form.isRange then
      let dot ← mark "."
      match ← rest with
      | .literal w :: after =>
        match fieldNumbers? w with
        | some (numbers, open_) =>
          setRest after
          let e : Expr := ⟨.field, e.written ++ dot ++ numbers⟩
          if open_ then trailersLoop g fuel (← accessed g e (op ".")) else trailersLoop g fuel e
        | none => trailersLoop g fuel (← accessed g e dot)
      | _ => trailersLoop g fuel (← accessed g e dot)
    else if startsGroup .bracket ts then
      let index ← group .bracket do return (← g.expr true).written
      trailersLoop g fuel ⟨.index, e.written ++ index⟩
    else if startsOp "?" ts && !e.form.isRange then
      trailersLoop g fuel ⟨.tried, e.written ++ (← mark "?")⟩
    else return e

def trailers (g : Grammar) (e : Expr) : Parser Expr := do trailersLoop g ((← rest).length + 1) e

def rangeEnd (structs closed : Bool) (operand : Parser Expr) : Parser Tokens := do
  let ts ← rest
  let ends :=
    ts.isEmpty || startsOpIn [",", ";", "?", "=", "+", "/", "%", "^", ">", "<=", "!=", "-=", "*=", "&=", "|=",
      "<<="] ts || (startsOp "." ts && !startsOp ".." ts) || (!structs && startsGroup .brace ts) ||
      startsWord "as" ts
  if !closed && ends then return [] else return (← operand).written

def fieldValue (g : Grammar) : Parser Tokens := do
  let attributes := attributesWritten (← outerAttributes g)
  let (m, named) ← member
  if startsOp ":" (← rest) || !named then
    let colon ← mark ":"
    return attributes ++ m ++ colon ++ (← g.expr true).written
  return attributes ++ m

def structFields (g : Grammar) : Parser Tokens := do
  let fields ← list (fun ts => ts.isEmpty || startsOp ".." ts) "," (fieldValue g)
  let written := fields.written id ","
  if (← rest).isEmpty then return written
  let dots ← mark ".."
  if (← rest).isEmpty then return written ++ dots
  return written ++ dots ++ (← g.expr true).written

def pathOperand (g : Grammar) (structs : Bool) : Parser Expr := do
  let p ← qualifiedPath g true
  let ts ← rest
  let plain := (p.plain?.map CodePath.isPlain).getD false
  if plain && startsOp "!" ts && !startsOp "!=" ts then
    let bang ← mark "!"
    let (d, body) ← anyGroup
    return ⟨.invocation (d = .brace), p.written ++ bang ++ [.group d body]⟩
  else if structs && startsGroup .brace ts then
    return ⟨.structLiteral, p.written ++ (← group .brace (structFields g))⟩
  else return ⟨.path p, p.written⟩

def parenOperand (g : Grammar) : Parser Expr :=
  return ← inside .paren do
    if (← rest).isEmpty then return ⟨.tuple, [parens []]⟩
    let first := (← g.expr true).written
    if (← rest).isEmpty then return ⟨.paren, [parens first]⟩
    let comma ← mark ","
    return ⟨.tuple, [parens (first ++ comma ++ (← commas do return (← g.expr true).written))]⟩

def bracketOperand (g : Grammar) : Parser Expr :=
  return ← inside .bracket do
    if (← rest).isEmpty then return ⟨.array, [brackets []]⟩
    let first := (← g.expr true).written
    let ts ← rest
    if ts.isEmpty then return ⟨.array, [brackets first]⟩
    else if startsOp "," ts then
      let comma ← mark ","
      return ⟨.array, [brackets (first ++ comma ++ (← commas do return (← g.expr true).written))]⟩
    else if startsOp ";" ts then
      let semicolon ← mark ";"
      return ⟨.repeated, [brackets (first ++ semicolon ++ (← g.expr true).written)]⟩
    else expected "`,` or `;`"

def closureParameter (g : Grammar) : Parser Tokens := do
  let attributes := attributesWritten (← outerAttributes g)
  let p ← g.pattern
  if startsOp ":" (← rest) then return attributes ++ p ++ (← mark ":") ++ (← g.type true).written
  return attributes ++ p

def closure (g : Grammar) (structs : Bool) : Parser Tokens := do
  let lifetimes ← binder? g
  let const ← keyword? "const"
  let static ← keyword? "static"
  let async ← keyword? "async"
  let move ← keyword? "move"
  let opening ← mark "|"
  let inputs ← list (startsOp "|") "," (closureParameter g)
  let closing ← mark "|"
  let head := lifetimes ++ const ++ static ++ async ++ move ++ opening ++ inputs.written id "," ++ closing
  if startsOp "->" (← rest) then
    let arrow ← mark "->"
    let type := (← g.type true).written
    return head ++ arrow ++ type ++ (← block g)
  return head ++ (← g.expr structs).written

def ifElseLoop (g : Grammar) : Nat → Parser Tokens
  | 0 => throw .tooDeep
  | fuel + 1 => do
    let start ← keyword "if"
    let condition := (← g.expr false).written
    let branch ← block g
    let head := start ++ condition ++ branch
    if !startsWord "else" (← rest) then return head
    let else_ ← keyword "else"
    if startsWord "if" (← rest) then return head ++ else_ ++ (← ifElseLoop g fuel)
    else if startsGroup .brace (← rest) then return head ++ else_ ++ (← block g)
    else expected "`if` or curly braces"

def ifElse (g : Grammar) : Parser Expr := do return ⟨.ifElse, ← ifElseLoop g ((← rest).length + 1)⟩

def whileLoop (g : Grammar) : Parser Expr := do
  let start ← keyword "while"
  let condition := (← g.expr false).written
  return ⟨.whileLoop, start ++ condition ++ (← annotatedBlock g)⟩

def forLoop (g : Grammar) : Parser Expr := do
  let start ← keyword "for"
  let p ← alternatives g
  let in_ ← keyword "in"
  let range := (← g.expr false).written
  return ⟨.forLoop, start ++ p ++ in_ ++ range ++ (← annotatedBlock g)⟩

def loop (g : Grammar) : Parser Expr := do
  let start ← keyword "loop"
  return ⟨.loop, start ++ (← annotatedBlock g)⟩

def wordBlock (g : Grammar) (w : String) (form : ExprForm) : Parser Expr := do
  let start ← keyword w
  return ⟨form, start ++ (← annotatedBlock g)⟩

def startsBinder (ts : Tokens) : Bool :=
  startsWord "for" ts && startsOp "<" (next ts) &&
    (startsLifetime (next (next ts)) || startsOp ">" (next (next ts)))

def labelled (g : Grammar) : Parser Expr := do
  let l ← lifetime
  let colon ← mark ":"
  let ts ← rest
  let e ←
    if startsWord "while" ts then whileLoop g
    else if startsWord "for" ts then forLoop g
    else if startsWord "loop" ts then loop g
    else if startsGroup .brace ts then pure ⟨.block, ← annotatedBlock g⟩
    else expected "loop or block expression"
  return ⟨e.form, l ++ colon ++ e.written⟩

def arm (g : Grammar) : Parser Tokens := do
  let attributes := attributesWritten (← outerAttributes g)
  let p ← alternatives g
  let guard ←
    if startsWord "if" (← rest) then pure ((← keyword "if") ++ (← g.expr true).written) else pure []
  let arrow ← mark "=>"
  let body ← g.leading
  let comma ← if body.form.needsComma && !(← rest).isEmpty then mark "," else mark? ","
  return attributes ++ p ++ guard ++ arrow ++ body.written ++ comma

def matching (g : Grammar) : Parser Expr := do
  let start ← keyword "match"
  let scrutinee := (← g.expr false).written
  let arms ← group .brace do
    let attributes ← innerAttributes g
    return attributes ++ (← many List.isEmpty (arm g)).flatten
  return ⟨.matching, start ++ scrutinee ++ arms⟩

def blockForm? (g : Grammar) : Parser (Option Expr) := do
  let ts ← rest
  if startsWord "if" ts then return some (← ifElse g)
  else if startsWord "while" ts then return some (← whileLoop g)
  else if startsWord "for" ts && !startsBinder ts then return some (← forLoop g)
  else if startsWord "loop" ts then return some (← loop g)
  else if startsWord "match" ts then return some (← matching g)
  else if startsWord "try" ts && startsGroup .brace (next ts) then
    return some (← wordBlock g "try" .tryBlock)
  else if startsWord "unsafe" ts then return some (← wordBlock g "unsafe" .unsafeBlock)
  else if startsWord "const" ts && startsGroup .brace (next ts) then
    return some (← wordBlock g "const" .constant)
  else if startsGroup .brace ts then return some ⟨.block, ← annotatedBlock g⟩
  else if startsLifetime ts then return some (← labelled g)
  else return none

def leaving (g : Grammar) (w : String) (form : ExprForm) : Parser Expr := do
  let start ← keyword w
  if startsExpr (← rest) then return ⟨form, start ++ (← g.expr true).written⟩
  return ⟨form, start⟩

def breakOut (g : Grammar) (structs : Bool) : Parser Expr := do
  let start ← keyword "break"
  let ts ← rest
  if startsLifetime ts && startsOp ":" (next ts) then
    let _ ← g.expr true
    throw (.notAllowed "parentheses required")
  let l ← lifetime?
  let ts ← rest
  if startsExpr ts && (structs || !startsGroup .brace ts) then
    return ⟨.break, start ++ l ++ (← g.expr structs).written⟩
  return ⟨.break, start ++ l⟩

def condition (g : Grammar) (structs : Bool) : Parser Expr := do
  let start ← keyword "let"
  let p ← alternatives g
  let eq ← mark "="
  let first ← g.unary structs
  return ⟨.letIn, start ++ p ++ eq ++ (← g.binary structs first comparisonStrength).written⟩

def builtin : Parser Tokens := do
  let start ← keyword "builtin"
  let hash ← mark "#"
  let i ← anyIdent
  return start ++ hash ++ [.ident i] ++ (← group .paren remainder)

def startsClosure (ts : Tokens) : Bool :=
  let after := next ts
  startsOp "|" ts || startsWord "move" ts || startsBinder ts ||
    (startsWord "const" ts && !startsGroup .brace after) || startsWord "static" ts ||
    (startsWord "async" ts && (startsOp "|" after || startsWord "move" after))

/-- An operand without what may follow it; `operand` reads the end of a range. -/
def atom (g : Grammar) (structs : Bool) (operand : Parser Expr) : Parser Expr := do
  let ts ← rest
  let after := next ts
  if startsLiteral ts then
    let l ← literal
    return ⟨.literal l, l⟩
  else if startsWord "async" ts &&
      (startsGroup .brace after || (startsWord "move" after && startsGroup .brace (next after))) then
    let start ← keyword "async"
    let move ← keyword? "move"
    return ⟨.async, start ++ move ++ (← annotatedBlock g)⟩
  else if startsWord "try" ts && startsGroup .brace after then wordBlock g "try" .tryBlock
  else if startsClosure ts then return ⟨.closure, ← closure g structs⟩
  else if startsWord "builtin" ts && startsOp "#" after then return ⟨.verbatim, ← builtin⟩
  else if startsPath ts || (startsWord "try" ts && (startsOp "!" after || startsColons after)) then
    pathOperand g structs
  else if startsGroup .paren ts then parenOperand g
  else if startsWord "break" ts then breakOut g structs
  else if startsWord "continue" ts then
    let start ← keyword "continue"
    return ⟨.continue, start ++ (← lifetime?)⟩
  else if startsWord "return" ts then leaving g "return" .return
  else if startsWord "yield" ts then leaving g "yield" .yield
  else if startsWord "become" ts then
    let start ← keyword "become"
    return ⟨.verbatim, start ++ (← g.expr true).written⟩
  else if startsGroup .bracket ts then bracketOperand g
  else if startsWord "let" ts then condition g structs
  else if startsOp ".." ts then
    let (dots, closed) ← rangeMark
    return ⟨.range, dots ++ (← rangeEnd structs closed operand)⟩
  else if startsWord "_" ts then return ⟨.infer, ← keyword "_"⟩
  else
    match ← blockForm? g with
    | some e => return e
    | none => expected "an expression"

def unaryOp? (ts : Tokens) : Bool := startsOpIn ["*", "!", "-"] ts

def borrow : Parser (ExprForm × Tokens) := do
  let ts ← rest
  let after := next ts
  if startsWord "raw" ts && startsWordIn ["mut", "const"] after then
    let raw ← anyIdent
    let access ← anyIdent
    return (.rawAddress, [.ident raw, .ident access])
  return (.reference, ← keyword? "mut")

/-- An expression that no binary operator ends. -/
def unary (g : Grammar) (structs : Bool) (operand : Parser Expr) : Parser Expr := do
  let attributes := attributesWritten (← outerAttributes g)
  let ts ← rest
  if startsOp "&" ts then
    let amp ← mark "&"
    let (form, words) ← borrow
    return ⟨form, attributes ++ amp ++ words ++ (← g.unary structs).written⟩
  else if unaryOp? ts then
    let o ← if startsOp "*" ts then mark "*" else if startsOp "!" ts then mark "!" else mark "-"
    return ⟨.unary, attributes ++ o ++ (← g.unary structs).written⟩
  else
    let e ← trailers g (← atom g structs operand)
    return ⟨e.form, attributes ++ e.written⟩

def operandLoop (g : Grammar) (structs : Bool) (level : Nat) : Nat → Expr → Parser Expr
  | 0, _ => throw .tooDeep
  | fuel + 1, e => do
    let before := (← rest).length
    let next := strength (← rest)
    if level < next || (next = level && level = assignStrength) then
      let e ← g.binary structs e next
      if (← rest).length = before then return e else operandLoop g structs level fuel e
    else return e

def operand (g : Grammar) (structs : Bool) (level : Nat) : Parser Expr := do
  operandLoop g structs level ((← rest).length + 1) (← g.unary structs)

def checkCast : Parser Unit := do
  let ts ← rest
  let after := next ts
  let follower :=
    if startsOp "." ts && !startsOp ".." ts then
      if startsWord "await" after then some "`.await`"
      else if startsName after && (startsGroup .paren (next after) || startsColons (next after)) then
        some "a method call"
      else some "a field access"
    else if startsOp "?" ts then some "`?`"
    else if startsGroup .bracket ts then some "indexing"
    else if startsGroup .paren ts then some "a function call"
    else none
  match follower with
  | some what => throw (.notAllowed ("casts cannot be followed by " ++ what))
  | none => return ()

def binaryLoop (g : Grammar) (structs : Bool) (base : Nat) : Nat → Expr → Parser Expr
  | 0, _ => throw .tooDeep
  | fuel + 1, e => do
    let ts ← rest
    if e.form.isRange then return e
    match binaryOp? ts with
    | some (o, level) =>
      if level < base then return e
      if level = comparisonStrength then
        if let .binary true := e.form then throw (.notAllowed "comparison operators cannot be chained")
      let m ← mark o
      let right ← operand g structs level
      binaryLoop g structs base fuel ⟨.binary (level = comparisonStrength), e.written ++ m ++ right.written⟩
    | none =>
      if base ≤ assignStrength && startsAssignment ts then
        let m ← mark "="
        let right ← operand g structs assignStrength
        binaryLoop g structs base fuel ⟨.assign, e.written ++ m ++ right.written⟩
      else if base ≤ rangeStrength && startsOp ".." ts then
        let (dots, closed) ← rangeMark
        let stop ← rangeEnd structs closed (operand g structs rangeStrength)
        binaryLoop g structs base fuel ⟨.range, e.written ++ dots ++ stop⟩
      else if base ≤ castStrength && startsWord "as" ts then
        let as ← keyword "as"
        let type := (← g.type false).written
        checkCast
        binaryLoop g structs base fuel ⟨.cast, e.written ++ as ++ type⟩
      else return e

def binary (g : Grammar) (structs : Bool) (e : Expr) (base : Nat) : Parser Expr := do
  binaryLoop g structs base ((← rest).length + 1) e

def expression (g : Grammar) (structs : Bool) : Parser Expr := do
  binary g structs (← unary g structs (operand g structs rangeStrength)) 0

/-- An expression that a block form at its start ends, unless a field, call or operator applies to it. -/
def leading (g : Grammar) : Parser Expr := do
  let attributes := attributesWritten (← outerAttributes g)
  let e ←
    match ← blockForm? g with
    | some e =>
      let ts ← rest
      if (startsOp "." ts && !startsOp ".." ts) || startsOp "?" ts then
        binary g true (← trailers g e) 0
      else pure e
    | none => expression g true
  return ⟨e.form, attributes ++ e.written⟩

def startsInvocation (ts : Tokens) : Bool :=
  startsOp "!" ts && startsGroup .brace (next ts) &&
    !((startsOp "." (next (next ts)) && !startsOp ".." (next (next ts))) || startsOp "?" (next (next ts)))

def invocation? : Parser (Option Tokens) := fun c =>
  match plainPath startsPlainSegment c with
  | .error _ => .ok (none, c)
  | .ok (p, c') =>
    if startsInvocation c'.rest then
      (do
        let bang ← mark "!"
        let (d, body) ← anyGroup
        return some (p.written ++ bang ++ [.group d body] ++ (← mark? ";")) : Parser (Option Tokens)) c'
    else .ok (none, c)

def localNames (g : Grammar) : Parser Tokens := do
  let start ← keyword "let"
  let p ← g.pattern
  let type ← if startsOp ":" (← rest) then pure ((← mark ":") ++ (← g.type true).written) else pure []
  let value ←
    if startsOp "=" (← rest) then
      let eq ← mark "="
      let e := (← g.expr true).written
      let otherwise ←
        if startsWord "else" (← rest) then pure ((← keyword "else") ++ (← block g)) else pure []
      pure (eq ++ e ++ otherwise)
    else pure []
  return start ++ p ++ type ++ value ++ (← mark ";")

def startsDeclaration (ts : Tokens) : Bool :=
  let after := next ts
  let third := next after
  startsWordIn ["pub", "extern", "use", "fn", "mod", "type", "struct", "enum", "trait", "impl", "macro"] ts ||
    (startsWord "crate" ts && !startsColons after) ||
    (startsWord "static" ts &&
      (startsWord "mut" after || startsName after)) ||
    (startsWord "const" ts &&
      !(startsGroup .brace after || startsWordIn ["static", "move"] after || startsOp "|" after ||
        (startsWord "async" after && !startsWordIn ["unsafe", "extern", "fn"] third))) ||
    (startsWord "unsafe" ts && !startsGroup .brace after) ||
    (startsWord "async" ts && startsWordIn ["unsafe", "extern", "fn"] after) ||
    (startsWord "union" ts && startsName after) || (startsWord "auto" ts && startsWord "trait" after) ||
    (startsWord "default" ts && startsWordIn ["unsafe", "impl"] after)

def statement (g : Grammar) : Parser (Tokens × Bool) := do
  if startsOp ";" (← rest) then return (← mark ";", false)
  let attributes := attributesWritten (← outerAttributes g)
  match ← invocation? with
  | some ts => return (attributes ++ ts, false)
  | none =>
    if startsWord "let" (← rest) then return (attributes ++ (← localNames g), false)
    if startsDeclaration (← rest) then return (attributes ++ (← g.declaration), false)
    let e ← g.leading
    let semicolon ← mark? ";"
    return (attributes ++ e.written ++ semicolon, semicolon.isEmpty && e.form.needsSemicolon)

def statementsLoop (g : Grammar) : Nat → Parser Tokens
  | 0 => throw .tooDeep
  | fuel + 1 => do
    if (← rest).isEmpty then return []
    let (s, open_) ← statement g
    if open_ && !(← rest).isEmpty then throw (.notAllowed "unexpected token, expected `;`")
    return s ++ (← statementsLoop g fuel)

def statements (g : Grammar) : Parser Tokens := do statementsLoop g ((← rest).length + 1)

end HostBinder.Code.Parser

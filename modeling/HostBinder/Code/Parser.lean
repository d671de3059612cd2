import HostBinder.Code.Token

set_option autoImplicit false

/-!
Parsers over tokens. A parser works on the tokens of one group up to its end, reading what it accepts in
printed form: spaces between marks are those of the grammar, not those of the source. Tokens that are left
behind in a group are remembered, and refused once everything else has been read.
-/

namespace HostBinder.Code

inductive Fault where
  | expected (what : String)
  | endedBefore (what : String)
  | leftOver (inside : Option Delimiter)
  | notAllowed (reason : String)
  | tooDeep
  deriving DecidableEq, Repr

def Fault.message : Fault → String
  | .expected what => "expected " ++ what
  | .endedBefore what => "unexpected end of input, expected " ++ what
  | .leftOver none => "unexpected token"
  | .leftOver (some .paren) => "unexpected token, expected \x60)\x60"
  | .leftOver (some .bracket) => "unexpected token, expected \x60]\x60"
  | .leftOver (some .brace) => "unexpected token, expected \x60\x7d\x60"
  | .notAllowed reason => reason
  | .tooDeep => "nesting is too deep"

/-- What is left of the group being read, and the first group so far that was not read to its end. -/
structure Cursor where
  rest : Tokens
  unread : Option Delimiter

abbrev Parser (α : Type) := StateT Cursor (Except Fault) α

def reservedWords : List String := [
  "_", "abstract", "as", "async", "await", "become", "box", "break", "const", "continue", "crate", "do",
  "dyn", "else", "enum", "extern", "false", "final", "fn", "for", "if", "impl", "in", "let", "loop",
  "macro", "match", "mod", "move", "mut", "override", "priv", "pub", "ref", "return", "Self", "self",
  "static", "struct", "super", "trait", "true", "try", "type", "typeof", "unsafe", "unsized", "use",
  "virtual", "where", "while", "yield"]

/-- Whether an identifier is a name of the program's own. -/
def Ident.isName (i : Ident) : Bool := i.raw || !reservedWords.contains i.name

def afterMarks? : List Char → Tokens → Option Tokens
  | [], ts => some ts
  | [c], .mark c' _ :: ts => if c = c' then some ts else none
  | c :: cs, .mark c' true :: ts => if c = c' then afterMarks? cs ts else none
  | _, _ => none

def startsOp (s : String) (ts : Tokens) : Bool := (afterMarks? s.toList ts).isSome

def startsWord (w : String) : Tokens → Bool
  | .ident i :: _ => i == ⟨w, false⟩
  | _ => false

def startsName : Tokens → Bool
  | .ident i :: _ => i.isName
  | _ => false

def startsIdent : Tokens → Bool
  | .ident _ :: _ => true
  | _ => false

def startsGroup (d : Delimiter) : Tokens → Bool
  | .group d' _ :: _ => d = d'
  | _ => false

def startsLifetime : Tokens → Bool
  | .mark '\x27' true :: .ident _ :: _ => true
  | _ => false

/-- A literal that is a number. -/
def isNumeral (written : String) : Bool :=
  match written.toList with
  | c :: _ => c.isDigit
  | [] => false

def literal? : Tokens → Option (Tokens × Tokens)
  | .literal w :: ts => some ([.literal w], ts)
  | .ident i :: ts => if i == ⟨"true", false⟩ || i == ⟨"false", false⟩ then some ([.ident i], ts) else none
  | .mark '-' _ :: .literal w :: ts =>
    if isNumeral w then some ([.mark '-' false, .literal w], ts) else none
  | _ => none

def startsLiteral (ts : Tokens) : Bool := (literal? ts).isSome

/-- The tokens behind the first one; the name of a lifetime belongs to its mark. -/
def next (ts : Tokens) : Tokens :=
  if startsLifetime ts then ts.drop 2 else ts.drop 1

def startsColons (ts : Tokens) : Bool := startsOp "::" ts

def startsColon (ts : Tokens) : Bool := startsOp ":" ts && !startsColons ts

def startsWordIn (ws : List String) (ts : Tokens) : Bool := ws.any (startsWord · ts)

def startsOpIn (ops : List String) (ts : Tokens) : Bool := ops.any (startsOp · ts)

namespace Parser

def rest : Parser Tokens := return (← get).rest

def setRest (ts : Tokens) : Parser Unit := modify fun c => { c with rest := ts }

def expected {α : Type} (what : String) : Parser α := do
  throw (if (← rest).isEmpty then .endedBefore what else .expected what)

def spelled (s : String) : String := "\x60" ++ s ++ "\x60"

def mark (s : String) : Parser Tokens := do
  match afterMarks? s.toList (← rest) with
  | some ts => setRest ts; return op s
  | none => throw (.expected (spelled s))

def keyword (w : String) : Parser Tokens := do
  match ← rest with
  | .ident i :: ts => if i == ⟨w, false⟩ then setRest ts; return [.ident i] else expected (spelled w)
  | _ => expected (spelled w)

def anyIdent : Parser Ident := do
  match ← rest with
  | .ident i :: ts => setRest ts; return i
  | _ => expected "ident"

def name : Parser Ident := do
  match ← rest with
  | .ident i :: ts =>
    if i.isName then setRest ts; return i else throw (.expected ("identifier, found keyword " ++ spelled i.name))
  | _ => expected "identifier"

def lifetime : Parser Tokens := do
  match ← rest with
  | .mark '\x27' true :: .ident i :: ts => setRest ts; return [.mark '\x27' true, .ident i]
  | _ => expected "lifetime"

def literal : Parser Tokens := do
  match literal? (← rest) with
  | some (t, ts) => setRest ts; return t
  | none => expected "literal"

def mark? (s : String) : Parser Tokens := do
  if startsOp s (← rest) then mark s else return []

def keyword? (w : String) : Parser Tokens := do
  if startsWord w (← rest) then keyword w else return []

def lifetime? : Parser Tokens := do
  if startsLifetime (← rest) then lifetime else return []

def Delimiter.plural : Delimiter → String
  | .paren => "parentheses"
  | .bracket => "square brackets"
  | .brace => "curly braces"

def inside {α : Type} (d : Delimiter) (body : Parser α) : Parser α := do
  match ← rest with
  | .group d' ts :: after =>
    if d = d' then
      let unread := (← get).unread
      set (⟨ts, unread⟩ : Cursor)
      let a ← body
      modify fun c => ⟨after, c.unread <|> if c.rest.isEmpty then none else some d⟩
      return a
    else expected (Delimiter.plural d)
  | _ => expected (Delimiter.plural d)

def group (d : Delimiter) (body : Parser Tokens) : Parser Tokens :=
  return [.group d (← inside d body)]

def anyGroup : Parser (Delimiter × Tokens) := do
  match ← rest with
  | .group d ts :: after => setRest after; return (d, ts)
  | _ => expected "delimiter"

def remainder : Parser Tokens := do
  let ts ← rest
  setRest []
  return ts

def verbatim {α : Type} (p : Parser α) : Parser Tokens := do
  let before ← rest
  let _ ← p
  return before.take (before.length - (← rest).length)

/-- The result of `p`, if it accepts what comes; else nothing is read. -/
def attempt {α : Type} (p : Parser α) : Parser (Option α) := fun c =>
  match p c with
  | .ok (a, c') => .ok (some a, c')
  | .error _ => .ok (none, c)

def manyLoop {α : Type} (stop : Tokens → Bool) (item : Parser α) : Nat → Parser (List α)
  | 0 => throw .tooDeep
  | fuel + 1 => do
    if stop (← rest) then return []
    let a ← item
    return a :: (← manyLoop stop item fuel)

def many {α : Type} (stop : Tokens → Bool) (item : Parser α) : Parser (List α) := do
  manyLoop stop item ((← rest).length + 1)

structure Separated (α : Type) where
  items : List α
  trailing : Bool

def listLoop {α : Type} (stop : Tokens → Bool) (separator : String) (item : Parser α) :
    Nat → Parser (Separated α)
  | 0 => throw .tooDeep
  | fuel + 1 => do
    if stop (← rest) then return ⟨[], true⟩
    let a ← item
    if stop (← rest) then return ⟨[a], false⟩
    let _ ← mark separator
    let more ← listLoop stop separator item fuel
    return ⟨a :: more.items, more.trailing⟩

def list {α : Type} (stop : Tokens → Bool) (separator : String) (item : Parser α) :
    Parser (Separated α) := do
  listLoop stop separator item ((← rest).length + 1)

def chainLoop {α : Type} (stop : Tokens → Bool) (separator : String) (item : Parser α) :
    Nat → Parser (Separated α)
  | 0 => throw .tooDeep
  | fuel + 1 => do
    if stop (← rest) then return ⟨[], true⟩
    let a ← item
    if !startsOp separator (← rest) then return ⟨[a], false⟩
    let _ ← mark separator
    let more ← chainLoop stop separator item fuel
    return ⟨a :: more.items, more.trailing⟩

def chain {α : Type} (stop : Tokens → Bool) (separator : String) (item : Parser α) :
    Parser (Separated α) := do
  chainLoop stop separator item ((← rest).length + 1)

def Separated.written {α : Type} (text : α → Tokens) (separator : String) (l : Separated α) : Tokens :=
  List.intercalate (op separator) (l.items.map text) ++
    if l.trailing && !l.items.isEmpty then op separator else []

def commas (item : Parser Tokens) : Parser Tokens :=
  return (← list List.isEmpty "," item).written id ","

def all {α : Type} (p : Parser α) (ts : Tokens) : Except Fault α :=
  match p ⟨ts, none⟩ with
  | .error f => .error f
  | .ok (a, c) =>
    match c.unread with
    | some d => .error (.leftOver (some d))
    | none => if c.rest.isEmpty then .ok a else .error (.leftOver none)

end Parser

end HostBinder.Code

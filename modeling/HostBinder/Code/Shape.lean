import HostBinder.Code.Parser

set_option autoImplicit false

/-!
What is kept of parsed code: paths with their segments, types, expressions and attributes. Everything else
is kept in printed form only.
-/

namespace HostBinder.Code

/-- An argument between angle brackets, printed; `other` is a constant, a binding or a bound. -/
inductive GenericArg where
  | lifetime (written : Tokens)
  | type (written : Tokens)
  | other (written : Tokens)

namespace GenericArg

def written : GenericArg → Tokens
  | lifetime ts => ts
  | type ts => ts
  | other ts => ts

def isLifetime : GenericArg → Bool
  | lifetime _ => true
  | _ => false

def type? : GenericArg → Option Tokens
  | type ts => some ts
  | _ => none

end GenericArg

structure GenericArgs where
  turbofish : Bool
  args : Parser.Separated GenericArg

namespace GenericArgs

def paired (a : GenericArgs) : List (GenericArg × Bool) :=
  a.args.items.zipIdx.map fun (arg, i) => (arg, i + 1 < a.args.items.length || a.args.trailing)

/-- Print arguments; `closed` says that none has been printed that lacks its comma. -/
def print : Bool → List (GenericArg × Bool) → Tokens
  | _, [] => []
  | closed, (arg, comma) :: rest =>
    (if closed then [] else op ",") ++ arg.written ++ (if comma then op "," else []) ++ print comma rest

def written (a : GenericArgs) : Tokens :=
  let (first, others) := a.paired.partition (·.1.isLifetime)
  (if a.turbofish then op "::" else []) ++ op "<" ++ print true (first ++ others) ++ op ">"

end GenericArgs

structure Segment where
  name : Ident
  arguments : Option GenericArgs

def Segment.written (s : Segment) : Tokens :=
  .ident s.name :: (s.arguments.map GenericArgs.written).getD []

def segmentsWritten (ss : List Segment) : Tokens :=
  List.intercalate (op "::") (ss.map Segment.written)

structure CodePath where
  rooted : Bool
  segments : List Segment

namespace CodePath

def written (p : CodePath) : Tokens :=
  (if p.rooted then op "::" else []) ++ segmentsWritten p.segments

def ofIdent (i : Ident) : CodePath := ⟨false, [⟨i, none⟩]⟩

def ident? (p : CodePath) : Option Ident :=
  match p with
  | ⟨false, [⟨name, none⟩]⟩ => some name
  | _ => none

def isIdent (p : CodePath) (name : String) : Bool := p.ident? == some ⟨name, false⟩

def isPlain (p : CodePath) : Bool := p.segments.all fun s => s.arguments.isNone

end CodePath

inductive QualifiedPath where
  | plain (path : CodePath)
  | ofType (type : Tokens) (rest : List Segment)
  | ofTrait (type : Tokens) (trait : CodePath) (rest : List Segment)

namespace QualifiedPath

def written : QualifiedPath → Tokens
  | plain p => p.written
  | ofType t rest => op "<" ++ t ++ op ">" ++ op "::" ++ segmentsWritten rest
  | ofTrait t p rest =>
    op "<" ++ t ++ [word "as"] ++ p.written ++ op ">" ++ op "::" ++ segmentsWritten rest

def path : QualifiedPath → CodePath
  | plain p => p
  | ofType _ rest => ⟨true, rest⟩
  | ofTrait _ p rest => ⟨p.rooted, p.segments ++ rest⟩

def plain? : QualifiedPath → Option CodePath
  | plain p => some p
  | _ => none

def lastSegment? (p : QualifiedPath) : Option Segment := p.path.segments.getLast?

end QualifiedPath

inductive Ty where
  | path (path : QualifiedPath)
  | bound (written : Tokens)
  | other (written : Tokens)

def Ty.written : Ty → Tokens
  | path p => p.written
  | bound ts => ts
  | other ts => ts

inductive ExprForm where
  | array | assign | async | await
  | binary (comparison : Bool)
  | block | break | call | cast | closure | constant | continue | field | forLoop | ifElse | index | infer
  | letIn
  | literal (written : Tokens)
  | loop
  | invocation (braced : Bool)
  | matching | methodCall | paren
  | path (path : QualifiedPath)
  | range | rawAddress | reference | repeated | return | structLiteral | tried | tryBlock | tuple | unary
  | unsafeBlock | verbatim | whileLoop | yield

namespace ExprForm

def name : ExprForm → String
  | array => "array"
  | assign => "assign"
  | async => "async"
  | await => "await"
  | binary _ => "binary"
  | block => "block"
  | .break => "break"
  | call => "call"
  | cast => "cast"
  | closure => "closure"
  | constant => "const"
  | .continue => "continue"
  | field => "field"
  | forLoop => "for_loop"
  | ifElse => "if"
  | index => "index"
  | infer => "infer"
  | letIn => "let"
  | literal _ => "lit"
  | loop => "loop"
  | invocation _ => "macro"
  | matching => "match"
  | methodCall => "method_call"
  | paren => "paren"
  | path _ => "path"
  | range => "range"
  | rawAddress => "unknown"
  | reference => "reference"
  | repeated => "repeat"
  | .return => "return"
  | structLiteral => "struct"
  | tried => "try"
  | tryBlock => "try_block"
  | tuple => "tuple"
  | unary => "unary"
  | unsafeBlock => "unsafe"
  | verbatim => "verbatim"
  | whileLoop => "while"
  | yield => "yield"

def needsComma : ExprForm → Bool
  | ifElse | matching | block | unsafeBlock | whileLoop | loop | forLoop | tryBlock | constant => false
  | _ => true

def needsSemicolon : ExprForm → Bool
  | invocation braced => !braced
  | form => form.needsComma

def isRange : ExprForm → Bool
  | range => true
  | _ => false

end ExprForm

structure Expr where
  form : ExprForm
  written : Tokens

/-- What stands behind the path of an attribute. The tokens of a group are those of the source. -/
inductive AttributeBody where
  | bare
  | group (d : Delimiter) (body : Tokens)
  | value (written : Tokens)

structure Attribute where
  path : CodePath
  body : AttributeBody

def Attribute.content (a : Attribute) : Tokens :=
  a.path.written ++
    match a.body with
    | .bare => []
    | .group d body => [.group d body]
    | .value e => op "=" ++ e

def Attribute.written (a : Attribute) : Tokens := outerAttribute a.content

/-- Parsers for the parts of code that can nest in one another. -/
structure Grammar where
  type : Bool → Parser Ty
  /-- An expression; the argument says whether a path may start a struct literal. -/
  expr : Bool → Parser Expr
  unary : Bool → Parser Expr
  /-- What goes on from a left operand with operators that bind as strongly as the given level. -/
  binary : Bool → Expr → Nat → Parser Expr
  leading : Parser Expr
  statements : Parser Tokens
  pattern : Parser Tokens
  parameter : Parser Tokens
  bounds : Parser Tokens
  declaration : Parser Tokens

def Grammar.none : Grammar where
  type _ := throw .tooDeep
  expr _ := throw .tooDeep
  unary _ := throw .tooDeep
  binary _ _ _ := throw .tooDeep
  leading := throw .tooDeep
  statements := throw .tooDeep
  pattern := throw .tooDeep
  parameter := throw .tooDeep
  bounds := throw .tooDeep
  declaration := throw .tooDeep

end HostBinder.Code

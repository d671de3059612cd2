import HostBinder.Code.Declaration
import HostBinder.Code.Lexer

set_option autoImplicit false

/-!
The grammar of types, patterns, expressions and declarations nested in one another, to a depth that no text of a given
size exceeds.
-/

namespace HostBinder.Code

namespace Grammar

def around (g : Grammar) : Grammar where
  type joined := Parser.type g joined
  expr structs := Parser.expression g structs
  unary structs := Parser.unary g structs (Parser.operand g structs Parser.rangeStrength)
  binary structs e base := Parser.binary g structs e base
  leading := Parser.leading g
  statements := Parser.statements g
  pattern := Parser.pattern g
  parameter := Parser.genericParameter g
  bounds := Parser.argumentBounds g
  declaration := Parser.declaration g

def level : Nat → Grammar
  | 0 => none
  | n + 1 => around (level n)

/-- The grammar for texts of `size` tokens; a level of nesting takes one token at least. -/
def ofSize (size : Nat) : Grammar := level (4 * size + 16)

end Grammar

def parseAll {α : Type} (p : Grammar → Parser α) (ts : Tokens) : Except Fault α :=
  Parser.all (p (Grammar.ofSize (sizeOf ts))) ts

def pathOf (ts : Tokens) : Except Fault CodePath := parseAll (Parser.path · false) ts

def exprOf (ts : Tokens) : Except Fault Expr := parseAll (Parser.expression · true) ts

def itemOf (ts : Tokens) : Except Fault Item := parseAll (Parser.item · (sizeOf ts + 1)) ts

def pathOfText? (s : String) : Option CodePath := (lex? s).bind fun ts => (pathOf ts).toOption

def nameOfText? (s : String) : Option Ident := (lex? s).bind fun ts => (Parser.all Parser.name ts).toOption

end HostBinder.Code

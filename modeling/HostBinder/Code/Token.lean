import HostBinder.Text.IdentChar
import HostBinder.Text.Quoted

set_option autoImplicit false

namespace HostBinder.Code

/-- An identifier. A raw one is written with `r#` in front, which lets it be a reserved word. -/
structure Ident where
  name : String
  raw : Bool
  deriving DecidableEq, Repr, Inhabited

def Ident.text (i : Ident) : String := if i.raw then "r#" ++ i.name else i.name

inductive Delimiter where
  | paren
  | bracket
  | brace
  deriving DecidableEq, Repr

inductive Token where
  | ident (i : Ident)
  | mark (c : Char) (joint : Bool)
  | literal (written : String)
  | group (d : Delimiter) (body : List Token)

abbrev Tokens := List Token

def Delimiter.opening : Delimiter → String
  | .paren => "("
  | .bracket => "["
  | .brace => "\x7b "

def Delimiter.closing : Delimiter → String
  | .paren => ")"
  | .bracket => "]"
  | .brace => "\x7d"

def Delimiter.inner (d : Delimiter) (body : Tokens) : String :=
  if d = .brace && !body.isEmpty then " " else ""

def Token.gap : Token → String
  | .mark _ true => ""
  | _ => " "

mutual

def Token.text : Token → String
  | .ident i => i.text
  | .mark c _ => String.singleton c
  | .literal written => written
  | .group d body => d.opening ++ textOf body ++ d.inner body ++ d.closing

def textOf : List Token → String
  | [] => ""
  | [t] => t.text
  | t :: rest => t.text ++ t.gap ++ textOf rest

end

mutual

def Token.size : Token → Nat
  | .group _ body => 1 + sizeOf body
  | _ => 1

def sizeOf : List Token → Nat
  | [] => 0
  | t :: rest => t.size + sizeOf rest

end

/-- A word of the language or a plain identifier. -/
def word (name : String) : Token := .ident ⟨name, false⟩

/-- The marks of an operator, all but the last joined to the next. -/
def marks : List Char → Tokens
  | [] => []
  | [c] => [.mark c false]
  | c :: rest => .mark c true :: marks rest

def op (s : String) : Tokens := marks s.toList

def quoted (s : String) : Token := .literal (String.ofList (Text.Quoted.literal s.toList))

def number (n : Int) : Tokens :=
  if n < 0 then op "-" ++ [.literal (toString n.natAbs)] else [.literal (toString n.natAbs)]

def parens (body : Tokens) : Token := .group .paren body

def brackets (body : Tokens) : Token := .group .bracket body

def braces (body : Tokens) : Token := .group .brace body

def within (root : Tokens) (segments : List String) : Tokens :=
  root ++ segments.flatMap fun s => op "::" ++ [word s]

def rooted (segments : List String) : Tokens := within [] segments

def outerAttribute (content : Tokens) : Tokens := op "#" ++ [brackets content]

structure MalformedIdent where
  text : String
  deriving DecidableEq, Repr

def unrawable : List String := ["_", "super", "self", "Self", "crate"]

def isIdentText (cs : List Char) : Bool :=
  match cs with
  | [] => false
  | c :: rest => Text.isIdentStart c && rest.all Text.isIdentRest

def rawIdent (name : String) : Except MalformedIdent Ident :=
  if isIdentText name.toList && !unrawable.contains name then .ok ⟨name, true⟩ else .error ⟨name⟩

/-- The identifier that prints as `text`; nothing but the identifier may stand in the text. -/
def identOf (text : String) : Except MalformedIdent Ident :=
  match text.toList with
  | 'r' :: '#' :: name => rawIdent (String.ofList name)
  | cs => if isIdentText cs then .ok ⟨text, false⟩ else .error ⟨text⟩

end HostBinder.Code

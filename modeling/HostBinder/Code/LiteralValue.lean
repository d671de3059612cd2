import HostBinder.Code.Literal
import HostBinder.Code.Token

set_option autoImplicit false

namespace HostBinder.Code

inductive LiteralKind where
  | string
  | byteString
  | byte
  | char
  | integer
  | float
  | bool
  | other
  deriving DecidableEq, Repr

def LiteralKind.name : LiteralKind → String
  | .string => "string"
  | .byteString => "byte string"
  | .byte => "byte"
  | .char => "char"
  | .integer => "int"
  | .float => "float"
  | .bool => "bool"
  | .other => "unknown"

def isFloatText (cs : List Char) : Bool :=
  match cs with
  | '0' :: b :: _ => if b = 'x' || b = 'o' || b = 'b' then false else pointed cs
  | _ => pointed cs
where
  pointed (cs : List Char) : Bool :=
    match cs.dropWhile fun c => c.isDigit || c = '_' with
    | '.' :: _ => true
    | e :: rest =>
      (e = 'e' || e = 'E') &&
        match rest.dropWhile fun c => c = '_' || c = '+' || c = '-' with
        | d :: _ => d.isDigit
        | [] => false
    | [] => false

def literalKind (written : String) : LiteralKind :=
  match written.toList with
  | '\x22' :: _ => .string
  | 'r' :: _ => .string
  | 'b' :: '\x27' :: _ => .byte
  | 'b' :: _ => .byteString
  | '\x27' :: _ => .char
  | c :: cs => if c.isDigit then if isFloatText (c :: cs) then .float else .integer else .other
  | [] => .other

def kindOfLiteral : Tokens → LiteralKind
  | [.literal w] => literalKind w
  | [.mark _ _, .literal w] => literalKind w
  | [.ident _] => .bool
  | _ => .other

def escapeLetter (c : Char) : Char :=
  if c = 'n' then '\n' else if c = 'r' then '\r' else if c = 't' then '\t' else if c = '0' then '\x00' else c

def unquote : Nat → List Char → Option (List Char × List Char)
  | 0, _ => none
  | _, [] => none
  | fuel + 1, c :: cs =>
    if c = '\x22' then some ([], cs)
    else if c = '\r' then (unquote fuel (cs.drop 1)).map fun r => ('\n' :: r.1, r.2)
    else if c = '\\' then
      match cs with
      | 'x' :: a :: b :: rest =>
        let n := 16 * (Literal.hexDigit? a).getD 0 + (Literal.hexDigit? b).getD 0
        (unquote fuel rest).map fun r => (Char.ofNat n :: r.1, r.2)
      | 'u' :: '{' :: rest =>
        (Literal.unicodeEscape 0 0 rest).bind fun e =>
          (unquote fuel e.2).map fun r => (Char.ofNat e.1 :: r.1, r.2)
      | e :: rest =>
        if e = '\n' || e = '\r' then
          unquote fuel (rest.dropWhile fun c => c = ' ' || c = '\t' || c = '\n' || c = '\r')
        else (unquote fuel rest).map fun r => (escapeLetter e :: r.1, r.2)
      | [] => none
    else (unquote fuel cs).map fun r => (c :: r.1, r.2)

/-- The text of a raw literal behind its opening quote, up to the closing quote and `n` number signs. -/
def unquoteRaw (n : Nat) : List Char → Option (List Char × List Char)
  | [] => none
  | c :: cs =>
    if c = '\x22' && Literal.hashes n cs then some ([], cs.drop n)
    else (unquoteRaw n cs).map fun r => (c :: r.1, r.2)

structure StringValue where
  text : String
  suffix : String

def stringValue? (written : String) : Option StringValue :=
  let parts :=
    match written.toList with
    | '\x22' :: cs => unquote (cs.length + 1) cs
    | 'r' :: cs =>
      let n := (cs.takeWhile (· == '#')).length
      unquoteRaw n (cs.drop (n + 1))
    | _ => none
  parts.map fun p => ⟨String.ofList p.1, String.ofList p.2⟩

end HostBinder.Code

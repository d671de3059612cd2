import HostBinder.Text.Mark
import HostBinder.Text.Printable

set_option autoImplicit false

namespace HostBinder.Text.Quoted

def numbered (c : Char) : List Char :=
  ['\\', 'u', '{'] ++ Nat.toDigits 16 c.toNat ++ ['}']

def escape (c : Char) : List Char :=
  if c = '\x00' then ['\\', '0']
  else if c = '\t' then ['\\', 't']
  else if c = '\r' then ['\\', 'r']
  else if c = '\n' then ['\\', 'n']
  else if c = '\x22' || c = '\\' then ['\\', c]
  else if isExtending c || !isPrintable c then numbered c
  else [c]

def encode (cs : List Char) : List Char := '\x22' :: cs.flatMap escape ++ ['\x22']

/-- As `escape`, but a zero in front of an octal digit is written so that the digit cannot join it. -/
def escapeBefore (c : Char) (rest : List Char) : List Char :=
  match rest with
  | d :: _ => if c = '\x00' && '0' ≤ d && d ≤ '7' then ['\\', 'x', '0', '0'] else escape c
  | [] => escape c

def literalBody : List Char → List Char
  | [] => []
  | c :: cs => escapeBefore c cs ++ literalBody cs

def literal (cs : List Char) : List Char := '\x22' :: literalBody cs ++ ['\x22']

def text (s : String) : String := String.ofList (encode s.toList)

end HostBinder.Text.Quoted

import HostBinder.Text.IdentChar

set_option autoImplicit false

/-!
Where a literal of source code ends. Each function takes the characters from the start of a literal, or from
behind its opening quote, and gives what follows the literal; it gives nothing if the characters are no such
literal. Any literal may carry a suffix, which belongs to it.
-/

namespace HostBinder.Code.Literal

open HostBinder.Text

def skipSuffix (cs : List Char) : List Char :=
  match cs with
  | c :: rest => if isIdentStart c then rest.dropWhile isIdentRest else cs
  | [] => []

def hexDigit? (c : Char) : Option Nat :=
  if '0' ≤ c && c ≤ '9' then some (c.toNat - '0'.toNat)
  else if 'a' ≤ c && c ≤ 'f' then some (c.toNat - 'a'.toNat + 10)
  else if 'A' ≤ c && c ≤ 'F' then some (c.toNat - 'A'.toNat + 10)
  else none

def isHexDigit (c : Char) : Bool := (hexDigit? c).isSome

def isScalar (n : Nat) : Bool := n < 0xd800 || (0xdfff < n && n < 0x110000)

/-- The number of an escape `\u{...}` behind its opening brace and what follows it. At most six digits. -/
def unicodeEscape (length value : Nat) : List Char → Option (Nat × List Char)
  | [] => none
  | c :: cs =>
    if c = '}' then if 0 < length && isScalar value then some (value, cs) else none
    else if c = '_' then if 0 < length then unicodeEscape length value cs else none
    else
      match hexDigit? c with
      | some d => if length = 6 then none else unicodeEscape (length + 1) (16 * value + d) cs
      | none => none

def skipBreak (afterReturn : Bool) : List Char → Option (List Char)
  | [] => none
  | c :: cs =>
    if afterReturn then if c = '\n' then skipBreak false cs else none
    else if c = ' ' || c = '\t' || c = '\n' then skipBreak false cs
    else if c = '\r' then skipBreak true cs
    else some (c :: cs)

/-- What a kind of quoted literal lets stand between its quotes. -/
structure Quoting where
  plain : Char → Bool
  letters : List Char
  hex : Char → Char → Bool
  unicode : Nat → Bool

def Quoting.string : Quoting where
  plain _ := true
  letters := ['n', 'r', 't', '\\', '\x27', '\x22', '0']
  hex a b := '0' ≤ a && a ≤ '7' && isHexDigit b
  unicode _ := true

def Quoting.bytes : Quoting where
  plain c := c.toNat < 128
  letters := ['n', 'r', 't', '\\', '\x27', '\x22', '0']
  hex a b := isHexDigit a && isHexDigit b
  unicode _ := false

def Quoting.cString : Quoting where
  plain c := c != '\x00'
  letters := ['n', 'r', 't', '\\', '\x27', '\x22']
  hex a b := isHexDigit a && isHexDigit b && !(a == '0' && b == '0')
  unicode n := n != 0

def afterQuoted (q : Quoting) : Nat → List Char → Option (List Char)
  | 0, _ => none
  | _, [] => none
  | fuel + 1, c :: cs =>
    if c = '\x22' then some (skipSuffix cs)
    else if c = '\r' then
      match cs with
      | '\n' :: rest => afterQuoted q fuel rest
      | _ => none
    else if c = '\\' then
      match cs with
      | [] => none
      | 'x' :: a :: b :: rest => if q.hex a b then afterQuoted q fuel rest else none
      | 'u' :: '{' :: rest =>
        match unicodeEscape 0 0 rest with
        | some (n, rest) => if q.unicode n then afterQuoted q fuel rest else none
        | none => none
      | e :: rest =>
        if q.letters.contains e then afterQuoted q fuel rest
        else if e = '\n' || e = '\r' then
          match skipBreak (e = '\r') rest with
          | some rest => afterQuoted q fuel rest
          | none => none
        else none
    else if q.plain c then afterQuoted q fuel cs
    else none

def quoted (q : Quoting) (cs : List Char) : Option (List Char) := afterQuoted q (cs.length + 1) cs

def hashes (n : Nat) (cs : List Char) : Bool := cs.take n == List.replicate n '#'

def afterRaw (n : Nat) (plain : Char → Bool) : List Char → Option (List Char)
  | [] => none
  | '\r' :: '\n' :: cs => afterRaw n plain cs
  | c :: cs =>
    if c = '\x22' && hashes n cs then some (skipSuffix (cs.drop n))
    else if c = '\r' then none
    else if c = '\x22' || plain c then afterRaw n plain cs
    else none

def raw (plain : Char → Bool) (cs : List Char) : Option (List Char) :=
  let n := (cs.takeWhile (· == '#')).length
  match cs.drop n with
  | '\x22' :: rest => if n ≤ 255 then afterRaw n plain rest else none
  | _ => none

def closed : List Char → Option (List Char)
  | '\x27' :: cs => some (skipSuffix cs)
  | _ => none

def byte : List Char → Option (List Char)
  | '\\' :: 'x' :: a :: b :: cs => if isHexDigit a && isHexDigit b then closed cs else none
  | '\\' :: c :: cs => if Quoting.bytes.letters.contains c then closed cs else none
  | '\\' :: [] => none
  | c :: cs => if c.toNat < 128 then closed cs else none
  | [] => none

def character : List Char → Option (List Char)
  | '\\' :: 'x' :: a :: b :: cs => if Quoting.string.hex a b then closed cs else none
  | '\\' :: 'u' :: '{' :: cs => (unicodeEscape 0 0 cs).bind fun r => closed r.2
  | '\\' :: c :: cs => if Quoting.string.letters.contains c then closed cs else none
  | '\\' :: [] => none
  | _ :: cs => closed cs
  | [] => none

/-- How far the digits of a number with a point or exponent reach. -/
structure Mantissa where
  point : Bool
  exponent : Bool
  rest : List Char
  stop : List Char

def mantissa (point : Bool) : List Char → Option Mantissa
  | [] => some ⟨point, false, [], []⟩
  | c :: cs =>
    if c.isDigit || c = '_' then mantissa point cs
    else if c = '.' then
      if point then some ⟨point, false, c :: cs, c :: cs⟩
      else
        match cs with
        | d :: _ => if d = '.' || isIdentStart d then none else mantissa true cs
        | [] => mantissa true cs
    else if c = 'e' || c = 'E' then some ⟨point, true, cs, c :: cs⟩
    else some ⟨point, false, c :: cs, c :: cs⟩

def exponent (before : Option (List Char)) (sign value : Bool) : List Char → Option (List Char)
  | [] => if value then some [] else before
  | c :: cs =>
    if c = '+' || c = '-' then
      if value then some (c :: cs)
      else if sign then before
      else exponent before true value cs
    else if c.isDigit then exponent before sign true cs
    else if c = '_' then exponent before sign value cs
    else if value then some (c :: cs)
    else before

/-- What follows a number's suffix; a number runs up to the end of a word. -/
def afterNumber (cs : List Char) : Option (List Char) :=
  match skipSuffix cs with
  | c :: rest => if isIdentRest c then none else some (c :: rest)
  | [] => some []

def float (cs : List Char) : Option (List Char) :=
  match cs with
  | [] => none
  | c :: rest =>
    if c.isDigit then
      (mantissa false rest).bind fun m =>
        if m.exponent then
          (exponent (if m.point then some m.stop else none) false false m.rest).bind afterNumber
        else if m.point then afterNumber m.rest
        else none
    else none

def digits (base : Nat) (fresh : Bool) : List Char → Option (List Char)
  | [] => if fresh then none else some []
  | c :: cs =>
    if c = '_' then if fresh && base = 10 then none else digits base fresh cs
    else
      match hexDigit? c with
      | some d =>
        if d < base then digits base false cs
        else if c.isDigit || fresh then none
        else some (c :: cs)
      | none => if fresh then none else some (c :: cs)

def integer (cs : List Char) : Option (List Char) :=
  (match cs with
    | '0' :: 'x' :: rest => digits 16 true rest
    | '0' :: 'o' :: rest => digits 8 true rest
    | '0' :: 'b' :: rest => digits 2 true rest
    | _ => digits 10 true cs).bind afterNumber

def after? (cs : List Char) : Option (List Char) :=
  let text :=
    match cs with
    | '\x22' :: rest => quoted .string rest
    | 'r' :: rest => raw (fun _ => true) rest
    | 'b' :: '\x22' :: rest => quoted .bytes rest
    | 'b' :: 'r' :: rest => raw (fun c => c.toNat < 128) rest
    | 'c' :: '\x22' :: rest => quoted .cString rest
    | 'c' :: 'r' :: rest => raw (fun c => c != '\x00') rest
    | 'b' :: '\x27' :: rest => byte rest
    | '\x27' :: rest => character rest
    | _ => none
  text <|> float cs <|> integer cs

end HostBinder.Code.Literal

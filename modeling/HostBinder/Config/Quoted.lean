import HostBinder.Code.Literal

set_option autoImplicit false

namespace HostBinder.Config

def isControl (c : Char) : Bool := (c.toNat < 0x20 && c != '\t') || c.toNat == 0x7f

def hexNumber (n : Nat) (cs : List Char) : Option (Nat × List Char) :=
  if cs.length < n then none
  else ((cs.take n).foldlM (fun a c => (Code.Literal.hexDigit? c).map (16 * a + ·)) 0).map (·, cs.drop n)

def escaped? : List Char → Option (Char × List Char)
  | [] => none
  | c :: cs =>
    let numbered (n : Nat) := (hexNumber n cs).bind fun (v, rest) =>
      if Code.Literal.isScalar v then some (Char.ofNat v, rest) else none
    if c = 'b' then some ('\x08', cs)
    else if c = 't' then some ('\t', cs)
    else if c = 'n' then some ('\n', cs)
    else if c = 'f' then some ('\x0c', cs)
    else if c = 'r' then some ('\r', cs)
    else if c = 'e' then some ('\x1b', cs)
    else if c = '\x22' || c = '\\' then some (c, cs)
    else if c = 'x' then numbered 2
    else if c = 'u' then numbered 4
    else if c = 'U' then numbered 8
    else none

def afterBreak? : List Char → Option (List Char)
  | '\n' :: cs => some cs
  | '\r' :: '\n' :: cs => some cs
  | _ => none

def isBlank (c : Char) : Bool := c = ' ' || c = '\t'

def skipLines : List Char → List Char
  | '\r' :: '\n' :: cs => skipLines cs
  | c :: cs => if isBlank c || c = '\n' then skipLines cs else c :: cs
  | [] => []

def joinLines? (cs : List Char) : Option (List Char) :=
  (afterBreak? (cs.dropWhile isBlank)).map skipLines

def line (quote : Char) (escapes : Bool) : Nat → List Char → Option (List Char × List Char)
  | 0, _ => none
  | _, [] => none
  | fuel + 1, c :: cs =>
    if c = quote then some ([], cs)
    else if escapes && c = '\\' then
      (escaped? cs).bind fun (e, rest) => (line quote escapes fuel rest).map fun r => (e :: r.1, r.2)
    else if isControl c then none
    else (line quote escapes fuel cs).map fun r => (c :: r.1, r.2)

def quotes (quote : Char) (cs : List Char) : Nat := (cs.takeWhile (· == quote)).length

/-- A string over several lines behind its opening quotes, and what follows it. Up to two quotes in front of
the closing ones belong to the string. -/
def lines (quote : Char) (escapes : Bool) : Nat → List Char → Option (List Char × List Char)
  | 0, _ => none
  | _, [] => none
  | fuel + 1, c :: cs =>
    let more (own : List Char) (rest : List Char) :=
      (lines quote escapes fuel rest).map fun r => (own ++ r.1, r.2)
    let n := quotes quote (c :: cs)
    if 3 ≤ n then if 5 < n then none else some (List.replicate (n - 3) quote, (c :: cs).drop n)
    else if escapes && c = '\\' then
      match joinLines? cs with
      | some rest => more [] rest
      | none => (escaped? cs).bind fun (e, rest) => more [e] rest
    else
      match afterBreak? (c :: cs) with
      | some rest => more ['\n'] rest
      | none => if isControl c then none else more [c] cs

def string? (multiline : Bool) (cs : List Char) : Option (String × List Char) :=
  match cs with
  | c :: rest =>
    if c = '\x22' || c = '\x27' then
      let escapes := c = '\x22'
      let parts :=
        if multiline && 3 ≤ quotes c cs then
          let body := cs.drop 3
          lines c escapes (cs.length + 1) ((afterBreak? body).getD body)
        else line c escapes (cs.length + 1) rest
      parts.map fun r => (String.ofList r.1, r.2)
    else none
  | [] => none

end HostBinder.Config

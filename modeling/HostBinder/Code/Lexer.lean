import HostBinder.Code.Literal
import HostBinder.Code.Token

set_option autoImplicit false

/-!
Source text read as tokens. Blanks and comments separate tokens and are dropped; a documentation comment
becomes the attribute it stands for. A text with an unknown character, an unfinished literal or delimiters
that do not match is no source text.
-/

namespace HostBinder.Code

open HostBinder.Text

namespace Lexer

def splitLine : List Char → List Char × List Char
  | [] => ([], [])
  | '\r' :: '\n' :: cs => ([], '\n' :: cs)
  | c :: cs => if c = '\n' then ([], c :: cs) else ((splitLine cs).1.cons c, (splitLine cs).2)

/-- A block comment up to the end of its `depth` open comments, without that end, and what follows. -/
def splitBlock : Nat → List Char → Option (List Char × List Char)
  | _, [] => none
  | depth, '/' :: '*' :: cs => (splitBlock (depth + 1) cs).map fun r => ('/' :: '*' :: r.1, r.2)
  | depth, '*' :: '/' :: cs =>
    if depth ≤ 1 then some ([], cs)
    else (splitBlock (depth - 1) cs).map fun r => ('*' :: '/' :: r.1, r.2)
  | depth, c :: cs => (splitBlock depth cs).map fun r => (c :: r.1, r.2)

def blockComment (cs : List Char) : Option (List Char × List Char) :=
  match cs with
  | '/' :: '*' :: rest => splitBlock 1 rest
  | _ => none

def isSpace (c : Char) : Bool := isBlank c || c.toNat == 0x200e || c.toNat == 0x200f

def dropBlank? (cs : List Char) : Option (List Char) :=
  match cs with
  | '/' :: '/' :: '/' :: '/' :: rest => some (splitLine rest).2
  | '/' :: '/' :: '/' :: _ => none
  | '/' :: '/' :: '!' :: _ => none
  | '/' :: '/' :: rest => some (splitLine rest).2
  | '/' :: '*' :: '*' :: '/' :: rest => some rest
  | '/' :: '*' :: '*' :: '*' :: _ => (blockComment cs).map (·.2)
  | '/' :: '*' :: '*' :: _ => none
  | '/' :: '*' :: '!' :: _ => none
  | '/' :: '*' :: _ => (blockComment cs).map (·.2)
  | c :: rest => if isSpace c then some rest else none
  | [] => none

/-- A documentation comment: whether it speaks of what surrounds it, its text, and what follows. -/
def docComment? (cs : List Char) : Option (Bool × List Char × List Char) :=
  match cs with
  | '/' :: '/' :: '!' :: rest => some (true, splitLine rest)
  | '/' :: '*' :: '!' :: _ => (blockComment cs).map fun r => (true, r.1.drop 1, r.2)
  | '/' :: '/' :: '/' :: '/' :: _ => none
  | '/' :: '/' :: '/' :: rest => some (false, splitLine rest)
  | '/' :: '*' :: '*' :: '*' :: _ => none
  | '/' :: '*' :: '*' :: _ => (blockComment cs).map fun r => (false, r.1.drop 1, r.2)
  | _ => none

def returnsPaired : List Char → Bool
  | '\r' :: '\n' :: cs => returnsPaired cs
  | '\r' :: _ => false
  | _ :: cs => returnsPaired cs
  | [] => true

def docTokens (inner : Bool) (text : List Char) : Tokens :=
  op "#" ++ (if inner then op "!" else []) ++
    [brackets (word "doc" :: op "=" ++ [quoted (String.ofList text)])]

def markChars : List Char := "~!@#$%^&*-=+|;:,<.>/?\x27".toList

def startsWithMark (cs : List Char) : Bool :=
  match cs with
  | '/' :: '/' :: _ => false
  | '/' :: '*' :: _ => false
  | c :: _ => markChars.contains c
  | [] => false

def identChars? (cs : List Char) : Option (List Char × List Char) :=
  match cs with
  | c :: rest =>
    if isIdentStart c then some (c :: rest.takeWhile isIdentRest, rest.dropWhile isIdentRest) else none
  | [] => none

def ident? (cs : List Char) : Option (Ident × List Char) :=
  match cs with
  | 'r' :: '#' :: rest =>
    (identChars? rest).bind fun r =>
      if unrawable.contains (String.ofList r.1) then none else some (⟨String.ofList r.1, true⟩, r.2)
  | _ => (identChars? cs).map fun r => (⟨String.ofList r.1, false⟩, r.2)

/-- A mark at the start of `cs`, and what follows. An apostrophe is the mark of a lifetime's name. -/
def mark? (cs : List Char) : Option (Token × List Char) :=
  match cs with
  | '\x27' :: rest =>
    (ident? rest).bind fun r =>
      match r.2 with
      | '\x27' :: _ => none
      | '#' :: _ => if r.1.raw then some (.mark '\x27' true, rest) else none
      | _ => some (.mark '\x27' true, rest)
  | c :: rest => if startsWithMark cs then some (.mark c (startsWithMark rest), rest) else none
  | [] => none

/-- Whether `cs` starts as a literal would: no identifier is read there. -/
def startsLiteral (cs : List Char) : Bool :=
  match cs with
  | 'r' :: '\x22' :: _ => true
  | 'r' :: '#' :: '\x22' :: _ => true
  | 'r' :: '#' :: '#' :: _ => true
  | 'b' :: '\x22' :: _ => true
  | 'b' :: '\x27' :: _ => true
  | 'b' :: 'r' :: '\x22' :: _ => true
  | 'b' :: 'r' :: '#' :: _ => true
  | 'c' :: '\x22' :: _ => true
  | 'c' :: 'r' :: '\x22' :: _ => true
  | 'c' :: 'r' :: '#' :: _ => true
  | _ => false

def leaf? (cs : List Char) : Option (Token × List Char) :=
  match Literal.after? cs with
  | some rest => some (.literal (String.ofList (cs.take (cs.length - rest.length))), rest)
  | none =>
    mark? cs <|>
      if startsLiteral cs then none else (ident? cs).map fun r => (.ident r.1, r.2)

def opening? : Char → Option Delimiter
  | '(' => some .paren
  | '[' => some .bracket
  | '{' => some .brace
  | _ => none

def closing? : Char → Option Delimiter
  | ')' => some .paren
  | ']' => some .bracket
  | '}' => some .brace
  | _ => none

/-- The tokens of `cs`. The tokens of the group being read stand in `done`, last first, and those before each
group that is still open in `outer`, innermost first; `fuel` bounds the number of steps. -/
def lexFrom : Nat → List Char → Tokens → List (Delimiter × Tokens) → Option Tokens
  | 0, _, _, _ => none
  | fuel + 1, cs, done, outer =>
    match dropBlank? cs with
    | some rest => lexFrom fuel rest done outer
    | none =>
      match docComment? cs with
      | some (inner, text, rest) =>
        if returnsPaired text then lexFrom fuel rest ((docTokens inner text).reverse ++ done) outer else none
      | none =>
        match cs with
        | [] => if outer.isEmpty then some done.reverse else none
        | c :: rest =>
          match opening? c, closing? c with
          | some d, _ => lexFrom fuel rest [] ((d, done) :: outer)
          | none, some d =>
            match outer with
            | (d', before) :: outer =>
              if d = d' then lexFrom fuel rest (.group d done.reverse :: before) outer else none
            | [] => none
          | none, none =>
            match leaf? cs with
            | some (t, rest) => lexFrom fuel rest (t :: done) outer
            | none => none

end Lexer

/-- The tokens of a source text; a byte order mark in front is dropped. -/
def lex? (s : String) : Option Tokens :=
  let cs := match s.toList with
    | '\ufeff' :: rest => rest
    | cs => cs
  Lexer.lexFrom (cs.length + 1) cs [] []

end HostBinder.Code

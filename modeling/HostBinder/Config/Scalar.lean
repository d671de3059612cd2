import HostBinder.Code.Literal
import HostBinder.Config.Value

set_option autoImplicit false

namespace HostBinder.Config

/-- Digits in groups that single underscores divide, without the underscores. -/
def groups? (isDigit : Char → Bool) : List Char → Option (List Char)
  | [] => none
  | [c] => if isDigit c then some [c] else none
  | c :: '_' :: cs => if isDigit c then (groups? isDigit cs).map (c :: ·) else none
  | c :: cs => if isDigit c then (groups? isDigit cs).map (c :: ·) else none

def ofDigits (base : Nat) (cs : List Char) : Nat :=
  cs.foldl (fun n c => base * n + (Code.Literal.hexDigit? c).getD 0) 0

def whole? (cs : List Char) : Option (List Char) :=
  match groups? Char.isDigit cs with
  | some ('0' :: _ :: _) => none
  | ds => ds

def splitSign : List Char → Bool × List Char
  | '-' :: cs => (true, cs)
  | '+' :: cs => (false, cs)
  | cs => (false, cs)

def isDigitOf (base : Nat) (c : Char) : Bool := (Code.Literal.hexDigit? c).any fun d => d < base

def integer? (cs : List Char) : Option ConfigValue :=
  let toBase (base : Nat) (rest : List Char) :=
    (groups? (isDigitOf base) rest).map fun ds =>
      ConfigValue.integer (ofDigits base ds)
  match cs with
  | '0' :: 'x' :: rest => toBase 16 rest
  | '0' :: 'o' :: rest => toBase 8 rest
  | '0' :: 'b' :: rest => toBase 2 rest
  | _ =>
    let (negative, rest) := splitSign cs
    (whole? rest).map fun ds =>
      let n := Int.ofNat (ofDigits 10 ds)
      .integer (if negative then -n else n)

def exponent? : List Char → Option Int
  | [] => some 0
  | _ :: cs =>
    let (negative, rest) := splitSign cs
    (groups? Char.isDigit rest).map fun ds =>
      let n := Int.ofNat (ofDigits 10 ds)
      if negative then -n else n

def float? (cs : List Char) : Option ConfigValue :=
  let (negative, rest) := splitSign cs
  if rest = "inf".toList then some (.float (.infinite negative))
  else if rest = "nan".toList then some (.float .notANumber)
  else
    let isExponent := fun c : Char => c = 'e' || c = 'E'
    let mantissa := rest.takeWhile fun c => !isExponent c
    let power := rest.dropWhile fun c => !isExponent c
    let front := mantissa.takeWhile (· != '.')
    let back := mantissa.dropWhile (· != '.')
    if back.isEmpty && power.isEmpty then none
    else do
      let whole ← whole? front
      let part ← if back.isEmpty then some [] else groups? Char.isDigit (back.drop 1)
      let e ← exponent? power
      return .float (.decimal negative (ofDigits 10 (whole ++ part)) (e - part.length))

def fixed? (n : Nat) (cs : List Char) : Option (Nat × List Char) :=
  let ds := cs.take n
  if ds.length = n && ds.all Char.isDigit then some (ofDigits 10 ds, cs.drop n) else none

def skip? (c : Char) : List Char → Option (List Char)
  | d :: cs => if c = d then some cs else none
  | [] => none

def isLeap (year : Nat) : Bool := year % 4 = 0 && (year % 100 ≠ 0 || year % 400 = 0)

def daysIn (year month : Nat) : Nat :=
  if month = 2 then if isLeap year then 29 else 28
  else if [4, 6, 9, 11].contains month then 30
  else 31

def date? (cs : List Char) : Option (List Char) := do
  let (year, cs) ← fixed? 4 cs
  let (month, cs) ← fixed? 2 (← skip? '-' cs)
  let (day, cs) ← fixed? 2 (← skip? '-' cs)
  if 1 ≤ month && month ≤ 12 && 1 ≤ day && day ≤ daysIn year month then some cs else none

def seconds? (cs : List Char) : Option (List Char) :=
  match cs with
  | ':' :: rest => do
    let (second, rest) ← fixed? 2 rest
    if 60 < second then none
    else
      match rest with
      | '.' :: d :: more => if d.isDigit then some (more.dropWhile Char.isDigit) else none
      | '.' :: [] => none
      | rest => some rest
  | cs => some cs

def time? (cs : List Char) : Option (List Char) := do
  let (hour, cs) ← fixed? 2 cs
  let (minute, cs) ← fixed? 2 (← skip? ':' cs)
  if 23 < hour || 59 < minute then none else seconds? cs

def offset? (cs : List Char) : Option (List Char) :=
  match cs with
  | 'Z' :: rest => some rest
  | 'z' :: rest => some rest
  | c :: rest =>
    if c = '+' || c = '-' then do
      let (hour, rest) ← fixed? 2 rest
      let (minute, rest) ← fixed? 2 (← skip? ':' rest)
      if 23 < hour || 59 < minute then none else some rest
    else some cs
  | [] => some []

def moment? (cs : List Char) : Option ConfigValue :=
  let rest :=
    match date? cs with
    | some [] => some []
    | some (c :: rest) =>
      if c = 'T' || c = 't' || c = ' ' then (time? rest).bind offset? else none
    | none => time? cs
  match rest with
  | some [] => some .moment
  | _ => none

def scalar? (cs : List Char) : Option ConfigValue :=
  if cs = "true".toList then some (.boolean true)
  else if cs = "false".toList then some (.boolean false)
  else integer? cs <|> float? cs <|> moment? cs

def isWordChar (c : Char) : Bool := c.isAlphanum || "_+-.:".toList.contains c

/-- The word at the start of `cs` and what follows; a time may follow a date behind a blank. -/
def word (cs : List Char) : List Char × List Char :=
  let w := cs.takeWhile isWordChar
  let rest := cs.dropWhile isWordChar
  match date? w, rest with
  | some [], ' ' :: d :: more =>
    if d.isDigit then
      let time := (d :: more).takeWhile isWordChar
      (w ++ ' ' :: time, (d :: more).dropWhile isWordChar)
    else (w, rest)
  | _, _ => (w, rest)

end HostBinder.Config

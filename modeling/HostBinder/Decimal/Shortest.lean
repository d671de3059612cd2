import HostBinder.Decimal.Binary

set_option autoImplicit false

/-!
The shortest decimal number that reads back as a given binary one, and the nearest to it among those of that
length.
-/

namespace HostBinder.Decimal

structure Fraction where
  num : Nat
  den : Nat

def Fraction.lt (a b : Fraction) : Bool := a.num * b.den < b.num * a.den

def Fraction.binary (m : Nat) (q : Int) : Fraction :=
  if q < 0 then ⟨m, Nat.pow 2 q.natAbs⟩ else ⟨m * Nat.pow 2 q.natAbs, 1⟩

def Fraction.decimal (n : Nat) (k : Int) : Fraction :=
  if k < 0 then ⟨n, Nat.pow 10 k.natAbs⟩ else ⟨n * Nat.pow 10 k.natAbs, 1⟩

namespace Binary

def value (b : Binary) : Fraction := .binary b.m b.q

/-- The lower end of what reads back as `b`. Below a power of two the numbers lie closer. -/
def low (b : Binary) : Fraction :=
  if b.m = Nat.pow 2 52 && -1074 < b.q then .binary (4 * b.m - 1) (b.q - 2) else .binary (2 * b.m - 1) (b.q - 1)

def high (b : Binary) : Fraction := .binary (2 * b.m + 1) (b.q - 1)

/-- Whether a decimal number reads back as `b`; the ends do if `m` is even. -/
def readsBack (b : Binary) (f : Fraction) : Bool :=
  if b.m % 2 = 0 then !f.lt b.low && !b.high.lt f else b.low.lt f && f.lt b.high

/-- The number of digits before the point: the least power of ten above `b`. -/
def magnitude (b : Binary) : Int :=
  ((List.range 640).map fun i => (Int.ofNat i) - 324).find? (fun s => b.value.lt (.decimal 1 s)) |>.getD 0

end Binary

structure Digits where
  digits : Nat
  exponent : Int

def shortestWith? (b : Binary) (magnitude : Int) (n : Nat) : Option Digits :=
  let k := magnitude - n
  let v := b.value
  let unit := Fraction.decimal 1 k
  let below := v.num * unit.den / (v.den * unit.num)
  let lowFits := b.readsBack (.decimal below k)
  let highFits := b.readsBack (.decimal (below + 1) k)
  let twice := Fraction.decimal (2 * below + 1) k
  if lowFits && highFits then
    some (if twice.lt ⟨2 * v.num, v.den⟩ then ⟨below + 1, k⟩ else ⟨below, k⟩)
  else if lowFits then some ⟨below, k⟩
  else if highFits then some ⟨below + 1, k⟩
  else none

def shortest (b : Binary) : Digits :=
  let s := b.magnitude
  ((List.range 17).findSome? fun i => shortestWith? b s (i + 1)).getD ⟨0, 0⟩

def Digits.positional (d : Digits) : String :=
  let cs := Nat.toDigits 10 d.digits
  if 0 ≤ d.exponent then String.ofList (cs ++ List.replicate d.exponent.natAbs '0') ++ ".0"
  else
    let places := d.exponent.natAbs
    let cs := List.replicate (places + 1 - cs.length) '0' ++ cs
    let whole := cs.take (cs.length - places)
    let part := (cs.drop (cs.length - places)).reverse.dropWhile (· == '0') |>.reverse
    String.ofList whole ++ "." ++ (if part.isEmpty then "0" else String.ofList part)

end HostBinder.Decimal

set_option autoImplicit false

namespace HostBinder.Decimal

structure Binary where
  m : Nat
  q : Int
  deriving DecidableEq, Repr

def scaled (num den : Nat) (q : Int) : Nat × Nat :=
  if q < 0 then (num * Nat.pow 2 q.natAbs, den) else (num, den * Nat.pow 2 q.natAbs)

def roundHalfEven (num den : Nat) : Nat :=
  let n := num / den
  let twice := 2 * (num % den)
  if den < twice || (twice = den && n % 2 = 1) then n + 1 else n

/-- The exponent at which `num / den` has 53 bits, or the least one there is. -/
def binaryExponent (num den : Nat) : Int :=
  let q := max (Int.ofNat num.log2 - Int.ofNat den.log2 - 53) (-1074)
  let (n, d) := scaled num den q
  if n / d < Nat.pow 2 53 then q else q + 1

inductive Nearest where
  | zero
  | number (b : Binary)
  | tooLarge

def nearest (num den : Nat) : Nearest :=
  let q := binaryExponent num den
  let (n, d) := scaled num den q
  let m := roundHalfEven n d
  let b : Binary := if m = Nat.pow 2 53 then ⟨Nat.pow 2 52, q + 1⟩ else ⟨m, q⟩
  if b.m = 0 then .zero else if 971 < b.q then .tooLarge else .number b

def ofDecimal (coefficient : Nat) (exponent : Int) : Nearest :=
  let digits : Int := (Nat.toDigits 10 coefficient).length
  if coefficient = 0 || digits + exponent < -400 then .zero
  else if 400 < digits + exponent then .tooLarge
  else if exponent < 0 then nearest coefficient (Nat.pow 10 exponent.natAbs)
  else nearest (coefficient * Nat.pow 10 exponent.natAbs) 1

end HostBinder.Decimal

set_option autoImplicit false

/-!
How alike two names are: the measure of Jaro, raised by Winkler for a common start. Two characters match if
they are equal and stand about as far from the start; the measure is the mean of the matching share of
either name and the share of matches that come in the same order. It is computed as an exact fraction.
-/

namespace HostBinder.Text.Similarity

def reach (a b : List Char) : Nat := max a.length b.length / 2 - 1

def partner? (b : List Char) (reach i : Nat) (c : Char) (used : List Nat) : Option Nat :=
  (b.zipIdx.find? fun (d, j) => i - reach ≤ j && j < i + reach + 1 && c == d && !used.contains j).map (·.2)

def pairs (b : List Char) (reach : Nat) : Nat → List Nat → List Char → List (Nat × Nat)
  | _, _, [] => []
  | i, used, c :: cs =>
    match partner? b reach i c used with
    | some j => (i, j) :: pairs b reach (i + 1) (j :: used) cs
    | none => pairs b reach (i + 1) used cs

def select (cs : List Char) (places : List Nat) : List Char :=
  (cs.zipIdx.filter fun (_, i) => places.contains i).map (·.1)

structure Ratio where
  num : Nat
  den : Nat

def jaro (a b : List Char) : Ratio :=
  let matched := pairs b (reach a b) 0 [] a
  let m := matched.length
  let swaps := ((select a (matched.map (·.1))).zip (select b (matched.map (·.2)))).countP (fun (c, d) => c != d) / 2
  if m = 0 then ⟨if a.isEmpty && b.isEmpty then 1 else 0, 1⟩
  else ⟨m * m * b.length + m * m * a.length + (m - swaps) * a.length * b.length, 3 * a.length * b.length * m⟩

def commonStart (a b : List Char) : Nat := ((a.take 4).zip b).takeWhile (fun (c, d) => c == d) |>.length

/-- The measure with the common start of names counted that are alike at all. -/
def jaroWinkler (a b : List Char) : Ratio :=
  let j := jaro a b
  if 7 * j.den < 10 * j.num then ⟨10 * j.num + commonStart a b * (j.den - j.num), 10 * j.den⟩ else j

/-- Whether one name may be meant for the other: more than four fifths alike. -/
def similar (a b : String) : Bool :=
  let r := jaroWinkler a.toList b.toList
  4 * r.den < 5 * r.num

end HostBinder.Text.Similarity

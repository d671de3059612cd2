import HostBinder.Code.Token
import HostBinder.Proofs.Code.Quotation
import Std.Data.String.ToNat

set_option autoImplicit false

/-! What constant code denotes: texts, numbers, and the pieces between commas that they are given in. -/

namespace HostBinder.Code

def splitCommas : Tokens → List Tokens
  | [] => [[]]
  | t :: ts =>
    match t, splitCommas ts with
    | .mark ',' _, pieces => [] :: pieces
    | t, piece :: pieces => (t :: piece) :: pieces
    | t, [] => [[t]]

def stringOf? : Tokens → Option String
  | [.literal w] => (stringValue? w).bind fun v => if v.suffix = "" then some v.text else none
  | _ => none

def numberOf? : Tokens → Option Int
  | [.literal digits] => digits.toNat?.map Int.ofNat
  | [.mark '-' _, .literal digits] => digits.toNat?.map (-Int.ofNat ·)
  | _ => none

def partText? (m : String) : Tokens → Option String
  | [.ident i, .mark c _, .group .paren []] => if i = ⟨"module_path", false⟩ ∧ c = '!' then some m else none
  | ts => stringOf? ts

/-- The text that constant code denotes in a module: one part, or several put together. -/
def constantText? (m : String) : Tokens → Option String
  | [.ident i, .mark c joint, .group .paren args] =>
    if i = ⟨"concat", false⟩ ∧ c = '!' then ((splitCommas args).mapM (partText? m)).map String.join
    else partText? m [.ident i, .mark c joint, .group .paren args]
  | ts => partText? m ts

theorem stringOf?_quoted (s : String) : stringOf? [quoted s] = some s := by
  simp [quoted, stringOf?, stringValue?_literal]

theorem constantText?_quoted (m s : String) : constantText? m [quoted s] = some s := stringOf?_quoted s

theorem numberOf?_number (n : Int) : numberOf? (number n) = some n := by
  have hdigits : (toString n.natAbs).toNat? = some n.natAbs := Nat.toNat?_repr n.natAbs
  rw [number]
  split
  · have hminus : op "-" ++ [.literal (toString n.natAbs)] = [.mark '-' false, .literal (toString n.natAbs)] := rfl
    have hvalue : -(n.natAbs : Int) = n := by omega
    rw [hminus, numberOf?, hdigits]
    exact congrArg some hvalue
  · have hvalue : (n.natAbs : Int) = n := by omega
    rw [numberOf?, hdigits]
    exact congrArg some hvalue

theorem splitCommas_cons {t : Token} {ts piece : Tokens} {pieces : List Tokens} (h : ∀ joint, t ≠ .mark ',' joint)
    (hts : splitCommas ts = piece :: pieces) : splitCommas (t :: ts) = (t :: piece) :: pieces := by
  unfold splitCommas
  rw [hts]
  split
  · exact absurd rfl (h _)
  · rename_i heq
    obtain ⟨rfl, rfl⟩ := List.cons.inj heq
    rfl
  · rename_i heq
    cases heq

theorem splitCommas_append {piece : Tokens} (h : ∀ joint, .mark ',' joint ∉ piece) (joint : Bool) (rest : Tokens) :
    splitCommas (piece ++ .mark ',' joint :: rest) = piece :: splitCommas rest := by
  induction piece with
  | nil => rfl
  | cons t piece ih =>
    refine splitCommas_cons (fun j ht => ?_) (ih fun j hj => h j (List.mem_cons_of_mem _ hj))
    exact h j (ht ▸ List.mem_cons_self)

theorem comma_not_mem_number (n : Int) (joint : Bool) : .mark ',' joint ∉ number n := by
  rw [number]
  split
  · have hminus : op "-" = [.mark '-' false] := rfl
    simp [hminus]
  · simp

end HostBinder.Code

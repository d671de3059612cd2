import HostBinder.Hierarchy
import Mathlib.Data.Nat.Find
import Mathlib.Logic.Relation

set_option autoImplicit false

namespace HostBinder

namespace Hierarchy

open Relation

variable {h : Hierarchy}

/-- `base` is the recorded supertype of `type`. -/
def Extends (h : Hierarchy) (type base : String) : Prop := h.supertype? type = some base

/-- The type `n` edges above `type`, if the chain is that long. -/
def ascend? (h : Hierarchy) : Nat → String → Option String
  | 0, type => some type
  | n + 1, type => (h.supertype? type).bind (h.ascend? n)

theorem Extends.unique {a b c : String} (hb : h.Extends a b) (hc : h.Extends a c) : b = c :=
  Option.some.inj (hb.symm.trans hc)

theorem Extends.mem_keys {a b : String} (e : h.Extends a b) : a ∈ h.edges.keys := by
  unfold Extends supertype? at e
  have hg := Option.join_eq_some_iff.mp e
  exact SortedTable.contains_iff_mem_keys.mp (by rw [SortedTable.contains, hg]; rfl)

theorem ascend?_add (m n : Nat) (type : String) :
    h.ascend? (m + n) type = (h.ascend? m type).bind (h.ascend? n) := by
  induction m generalizing type with
  | zero => simp [ascend?]
  | succ m ih =>
    rw [Nat.succ_add, ascend?, ascend?, Option.bind_assoc]
    exact Option.bind_congr fun b _ => ih b

theorem ascend?_succ (n : Nat) (type : String) :
    h.ascend? (n + 1) type = (h.ascend? n type).bind h.supertype? := by
  rw [ascend?_add]
  congr 1
  funext b
  simp [ascend?]

theorem reaches_iff_ascend? {a b : String} :
    ReflTransGen h.Extends a b ↔ ∃ n, h.ascend? n a = some b := by
  constructor
  · intro hr
    induction hr with
    | refl => exact ⟨0, rfl⟩
    | tail _ e ih =>
      obtain ⟨n, hn⟩ := ih
      exact ⟨n + 1, by rw [ascend?_succ, hn]; exact e⟩
  · intro hx
    obtain ⟨n, hn⟩ := hx
    induction n generalizing a with
    | zero => cases hn; exact .refl
    | succ n ih =>
      obtain ⟨c, hc, hb⟩ := Option.bind_eq_some_iff.mp hn
      exact .head hc (ih hb)

@[simp] theorem chain_none (n : Nat) : h.chain n none = [] := by
  cases n <;> rfl

theorem chain_succ (n : Nat) (type : String) :
    h.chain (n + 1) (some type) = h.chain n (some type) ++ (h.ascend? n type).toList := by
  induction n generalizing type with
  | zero => simp [chain, ascend?]
  | succ n ih =>
    rw [chain, chain]
    cases hs : h.supertype? type with
    | none => simp [ascend?, hs]
    | some b => simp [ih, ascend?, hs]

theorem mem_chain_iff {n : Nat} {a b : String} :
    b ∈ h.chain n (some a) ↔ ∃ i, i < n ∧ h.ascend? i a = some b := by
  induction n with
  | zero => simp [chain]
  | succ n ih =>
    rw [chain_succ, List.mem_append, ih, Option.mem_toList]
    constructor
    · intro hx
      rcases hx with ⟨i, hi, hb⟩ | hb
      · exact ⟨i, by omega, hb⟩
      · exact ⟨n, by omega, hb⟩
    · intro hx
      obtain ⟨i, hi, hb⟩ := hx
      rcases Nat.lt_succ_iff_lt_or_eq.mp hi with hi | rfl
      · exact Or.inl ⟨i, hi, hb⟩
      · exact Or.inr hb

theorem length_chain {n : Nat} {a b : String} (hb : h.ascend? n a = some b) :
    (h.chain n (some a)).length = n := by
  induction n generalizing b with
  | zero => simp [chain]
  | succ n ih =>
    rw [ascend?_succ] at hb
    obtain ⟨c, hc, _⟩ := Option.bind_eq_some_iff.mp hb
    simp [chain_succ, ih hc, hc]

theorem chain_subset_keys {n : Nat} {a b : String} (hb : h.ascend? n a = some b) :
    h.chain n (some a) ⊆ h.edges.keys := by
  intro c hc
  obtain ⟨i, hi, hic⟩ := mem_chain_iff.mp hc
  obtain ⟨k, rfl⟩ : ∃ k, n = i + (k + 1) := ⟨n - i - 1, by omega⟩
  rw [ascend?_add, hic, Option.bind_some, ascend?] at hb
  obtain ⟨d, hd, _⟩ := Option.bind_eq_some_iff.mp hb
  exact Extends.mem_keys hd

/-- Only types with an edge are left on the way up, so distinct ones are no more than the edges. -/
theorem le_size_of_nodup {n : Nat} {a b : String} (hb : h.ascend? n a = some b)
    (hd : (h.chain n (some a)).Nodup) : n ≤ h.size := by
  have hl := hd.length_le_of_subset (chain_subset_keys hb)
  rw [length_chain hb] at hl
  simpa [SortedTable.keys, size, SortedTable.size] using hl

/-- What stands between two visits of one type can be left out. -/
theorem ascend?_shortcut {i j n : Nat} {a b : String} (hij : h.ascend? i a = h.ascend? j a)
    (hj : j ≤ n) (hb : h.ascend? n a = some b) : h.ascend? (i + (n - j)) a = some b := by
  rw [ascend?_add, hij, ← ascend?_add, Nat.add_sub_of_le hj, hb]

theorem nodup_chain_of_ne {n : Nat} {a : String}
    (hne : ∀ i j b, i < j → j < n → h.ascend? i a = some b → h.ascend? j a ≠ some b) :
    (h.chain n (some a)).Nodup := by
  induction n with
  | zero => simp [chain]
  | succ n ih =>
    rw [chain_succ]
    refine List.nodup_append.mpr ⟨ih fun i j b hij hj => hne i j b hij (by omega), ?_, ?_⟩
    · cases h.ascend? n a <;> simp
    · rintro b hb c hc rfl
      obtain ⟨i, hi, hib⟩ := mem_chain_iff.mp hb
      exact hne i n b hi (by omega) hib (Option.mem_toList.mp hc)

theorem nodup_chain_of_shortest {n : Nat} {a b : String} (hb : h.ascend? n a = some b)
    (hmin : ∀ m, m < n → h.ascend? m a ≠ some b) : (h.chain n (some a)).Nodup := by
  refine nodup_chain_of_ne fun i j c hij hj hi hjc => ?_
  exact hmin _ (by omega) (ascend?_shortcut (hi.trans hjc.symm) (by omega) hb)

/-- The bounded chain cuts off no type that the edges reach. -/
theorem mem_ancestors_iff {type base : String} :
    base ∈ h.ancestors type ↔ ReflTransGen h.Extends type base := by
  rw [ancestors, mem_chain_iff, reaches_iff_ascend?]
  constructor
  · intro hx
    obtain ⟨n, _, hn⟩ := hx
    exact ⟨n, hn⟩
  · intro hr
    classical
    have hn := Nat.find_spec hr
    have hle := le_size_of_nodup hn (nodup_chain_of_shortest hn fun _ hm => Nat.find_min hr hm)
    exact ⟨Nat.find hr, by omega, hn⟩

/-- Conformance is reachability along the recorded edges, in any table: cyclic, or with supertypes that have
no edge of their own. -/
theorem conforms_iff_reaches (h : Hierarchy) (type base : String) :
    h.conforms type base = true ↔ ReflTransGen h.Extends type base := by
  rw [conforms, List.contains_iff_mem, mem_ancestors_iff]

end Hierarchy

end HostBinder

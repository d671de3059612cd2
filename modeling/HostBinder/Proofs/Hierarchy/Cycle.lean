import HostBinder.Proofs.Hierarchy.Chain
import HostBinder.Proofs.Text.ByteOrder
import Mathlib.Data.List.Chain

set_option autoImplicit false

/-!
The search for a cycle of supertypes. The two loops of the search are stated as relations without a bound, and
the bounded walk is shown to be a finished run of them. What carries the search from one start to the next is
that only types whose chains end are settled, so passing over them hides no cycle.
-/

namespace HostBinder.Hierarchy

open Relation

variable {h : Hierarchy}

/-- The chain of the type comes to an end. -/
def Ends (h : Hierarchy) (type : String) : Prop := ∃ n, h.ascend? n type = none

/-- The type reaches itself by one or more edges. -/
def OnCycle (h : Hierarchy) (type : String) : Prop := TransGen h.Extends type type

/-- A finished run of the unbounded walk up from `next?`, round by round. -/
inductive Walks (h : Hierarchy) (settled : List String) :
    List String → Option String → Walk → Prop where
  | top (trail : List String) : Walks h settled trail none (.ended trail)
  | known {trail : List String} {type : String} :
      type ∈ settled → Walks h settled trail (some type) (.ended trail)
  | back {trail : List String} {type : String} : type ∉ settled → type ∈ trail →
      Walks h settled trail (some type) (.looped (trail.dropWhile (· ≠ type) ++ [type]))
  | up {trail : List String} {type : String} {outcome : Walk} : type ∉ settled → type ∉ trail →
      Walks h settled (trail ++ [type]) (h.supertype? type) outcome →
      Walks h settled trail (some type) outcome

/-- A finished run of the search over a list of starts, start by start. -/
inductive Searches (h : Hierarchy) : List String → List String → Option (List String) → Prop where
  | exhausted (settled : List String) : Searches h settled [] none
  | found {settled rest cycle : List String} {start : String} :
      Walks h settled [] (some start) (.looped cycle) → Searches h settled (start :: rest) (some cycle)
  | next {settled rest trail : List String} {start : String} {found : Option (List String)} :
      Walks h settled [] (some start) (.ended trail) → Searches h (settled ++ trail) rest found →
      Searches h settled (start :: rest) found

theorem Walks.unique {settled trail : List String} {next? : Option String} {v w : Walk}
    (hv : Walks h settled trail next? v) (hw : Walks h settled trail next? w) : v = w := by
  induction hv with
  | top => cases hw; rfl
  | known hs => cases hw <;> first | rfl | contradiction
  | back hs ht => cases hw <;> first | rfl | contradiction
  | up hs ht _ ih =>
    cases hw with
    | known => contradiction
    | back => contradiction
    | up _ _ hw => exact ih hw

theorem Searches.unique {settled starts : List String} {a b : Option (List String)}
    (ha : Searches h settled starts a) (hb : Searches h settled starts b) : a = b := by
  induction ha with
  | exhausted => cases hb; rfl
  | found hw =>
    cases hb with
    | found hw' => cases hw.unique hw'; rfl
    | next hw' => cases hw.unique hw'
  | next hw _ ih =>
    cases hb with
    | found hw' => cases hw.unique hw'
    | next hw' hb => cases hw.unique hw'; exact ih hb

theorem Extends.ends_iff {a b : String} (e : h.Extends a b) : h.Ends a ↔ h.Ends b := by
  constructor
  · intro hx
    obtain ⟨n, hn⟩ := hx
    refine ⟨n, ?_⟩
    have hs : h.ascend? (n + 1) a = none := by rw [ascend?_succ, hn]; rfl
    rwa [ascend?, e, Option.bind_some] at hs
  · intro hx
    obtain ⟨n, hn⟩ := hx
    exact ⟨n + 1, by rw [ascend?, e, Option.bind_some, hn]⟩

theorem ends_iff_of_reaches {a b : String} (hr : ReflTransGen h.Extends a b) : h.Ends a ↔ h.Ends b := by
  induction hr with
  | refl => exact Iff.rfl
  | tail _ e ih => exact ih.trans e.ends_iff

theorem OnCycle.of_extends {a b : String} (hc : h.OnCycle a) (e : h.Extends a b) : h.OnCycle b := by
  obtain ⟨c, hac, hca⟩ := TransGen.head'_iff.mp hc
  obtain rfl := e.unique hac
  exact TransGen.tail' hca e

theorem OnCycle.returns {a b : String} (hc : h.OnCycle a) (hr : ReflTransGen h.Extends a b) :
    ReflTransGen h.Extends b a := by
  induction hr using ReflTransGen.head_induction_on with
  | refl => exact .refl
  | head e _ ih =>
    obtain ⟨c, hac, hca⟩ := TransGen.head'_iff.mp hc
    obtain rfl := e.unique hac
    exact (ih (hc.of_extends e)).trans hca

theorem OnCycle.not_ends {a : String} (hc : h.OnCycle a) : ¬ h.Ends a := by
  intro hx
  obtain ⟨n, hn⟩ := hx
  induction n generalizing a with
  | zero => simp [ascend?] at hn
  | succ n ih =>
    obtain ⟨b, e, _⟩ := TransGen.head'_iff.mp hc
    rw [ascend?, e, Option.bind_some] at hn
    exact ih (hc.of_extends e) hn

/-- Where a walk from `start` stands: it has passed the first types of the chain, each once. -/
structure Climb (h : Hierarchy) (start : String) (trail : List String) (next? : Option String) : Prop where
  passed : trail = h.chain trail.length (some start)
  next_eq : next? = h.ascend? trail.length start
  distinct : trail.Nodup

theorem Climb.initial (h : Hierarchy) (start : String) : h.Climb start [] (some start) :=
  ⟨rfl, rfl, List.nodup_nil⟩

theorem Climb.chain_next {start type : String} {trail : List String} (c : h.Climb start trail (some type)) :
    trail ++ [type] = h.chain (trail.length + 1) (some start) := by
  rw [chain_succ, ← c.passed, ← c.next_eq, Option.toList_some]

theorem Climb.step {start type : String} {trail : List String} (c : h.Climb start trail (some type))
    (hn : type ∉ trail) : h.Climb start (trail ++ [type]) (h.supertype? type) := by
  refine ⟨?_, ?_, ?_⟩
  · simpa using c.chain_next
  · rw [List.length_append, List.length_singleton, ascend?_succ, ← c.next_eq, Option.bind_some]
  · refine List.nodup_append.mpr ⟨c.distinct, by simp, ?_⟩
    rintro a ha b hb rfl
    exact hn (List.mem_singleton.mp hb ▸ ha)

theorem Climb.length_le {start type : String} {trail : List String} (c : h.Climb start trail (some type)) :
    trail.length ≤ h.size := by
  apply le_size_of_nodup c.next_eq.symm
  rw [← c.passed]
  exact c.distinct

/-- The bound is not met before the walk is over. -/
theorem Climb.walks {start : String} {trail : List String} {next? : Option String} (settled : List String)
    (c : h.Climb start trail next?) (n : Nat) (hn : h.size + 1 ≤ n + trail.length) :
    Walks h settled trail next? (h.walk settled n trail next?) := by
  induction n generalizing trail next? with
  | zero =>
    cases next? with
    | none => exact .top trail
    | some type =>
      have hl := c.length_le
      omega
  | succ n ih =>
    cases next? with
    | none => exact .top trail
    | some type =>
      rw [walk]
      by_cases hs : type ∈ settled
      · rw [if_pos (List.contains_iff_mem.mpr hs)]
        exact .known hs
      rw [if_neg (mt List.contains_iff_mem.mp hs)]
      by_cases ht : type ∈ trail
      · rw [if_pos (List.contains_iff_mem.mpr ht)]
        exact .back hs ht
      rw [if_neg (mt List.contains_iff_mem.mp ht)]
      refine .up hs ht (ih (c.step ht) ?_)
      rw [List.length_append, List.length_singleton]
      omega

/-- The cycle that the chain of `start` runs into: the first type of the chain that lies on a cycle, the types
from there on until it comes again, and this type once more. -/
structure RunsInto (h : Hierarchy) (start : String) (cycle : List String) : Prop where
  closed : ∃ entry rest, cycle = entry :: rest ++ [entry] ∧ (entry :: rest).Nodup ∧ h.OnCycle entry ∧
    ∃ n, h.ascend? n start = some entry ∧
      ∀ m, m < n → ∀ type, h.ascend? m start = some type → ¬ h.OnCycle type
  linked : cycle.IsChain h.Extends

theorem isChain_chain (n : Nat) (type? : Option String) : (h.chain n type?).IsChain h.Extends := by
  induction n generalizing type? with
  | zero => exact .nil
  | succ n ih =>
    cases type? with
    | none => exact .nil
    | some type =>
      rw [chain]
      refine List.isChain_cons.mpr ⟨?_, ih _⟩
      intro b hb
      cases n with
      | zero => simp [chain] at hb
      | succ n =>
        cases hs : h.supertype? type with
        | none => simp [hs] at hb
        | some c =>
          rw [hs, chain] at hb
          cases Option.mem_some_iff.mp hb
          exact hs

theorem getElem?_chain {n i : Nat} (hi : i < n) (type : String) :
    (h.chain n (some type))[i]? = h.ascend? i type := by
  induction n generalizing i type with
  | zero => omega
  | succ n ih =>
    cases i with
    | zero => rfl
    | succ i =>
      rw [chain, List.getElem?_cons_succ, ascend?]
      cases hs : h.supertype? type with
      | none => simp
      | some b => exact ih (by omega) b

theorem mem_of_extends_of_isChain {types : List String} {last a b : String}
    (hl : (types ++ [last]).IsChain h.Extends) (ha : a ∈ types) (e : h.Extends a b) :
    b ∈ types ++ [last] := by
  induction types with
  | nil => simp at ha
  | cons c types ih =>
    rw [List.cons_append] at hl ⊢
    obtain ⟨hc, htail⟩ := List.isChain_cons.mp hl
    rcases List.mem_cons.mp ha with rfl | ha
    · obtain ⟨d, rest, hd⟩ := List.exists_cons_of_ne_nil (List.concat_ne_nil last types)
      obtain rfl := e.unique (hc d (by simp [hd]))
      simp [hd]
    · exact List.mem_cons_of_mem _ (ih htail ha)

/-- A walk that comes back to a type of its trail has found the cycle that its chain runs into. -/
theorem Climb.runsInto {start type : String} {trail : List String}
    (c : h.Climb start trail (some type)) (ht : type ∈ trail) :
    h.RunsInto start (trail.dropWhile (· ≠ type) ++ [type]) := by
  obtain ⟨front, rest, rfl, hf⟩ := List.eq_append_cons_of_mem ht
  have hdrop : (front ++ type :: rest).dropWhile (· ≠ type) = type :: rest := by
    rw [List.dropWhile_append_of_pos (by simpa using fun a ha => ne_of_mem_of_not_mem ha hf)]
    simp
  have hget {m : Nat} (hm : m < (front ++ type :: rest).length) :
      (front ++ type :: rest)[m]? = h.ascend? m start := by
    conv_lhs => rw [c.passed]
    exact getElem?_chain hm start
  have hlinked : (front ++ (type :: rest ++ [type])).IsChain h.Extends := by
    rw [← List.append_assoc, c.chain_next]
    exact isChain_chain _ _
  have hloop : (type :: rest ++ [type]).IsChain h.Extends := hlinked.right_of_append
  have hentry : h.ascend? front.length start = some type := by
    rw [← hget (by simp)]
    simp
  have hcycle : h.OnCycle type := by
    have hback := c.next_eq.symm
    rw [List.length_append, ascend?_add, hentry, Option.bind_some, List.length_cons, ascend?] at hback
    obtain ⟨b, e, hb⟩ := Option.bind_eq_some_iff.mp hback
    exact TransGen.head' e (reaches_iff_ascend?.mpr ⟨_, hb⟩)
  have hclosed {b : String} (hr : ReflTransGen h.Extends type b) : b ∈ type :: rest := by
    induction hr with
    | refl => simp
    | tail _ e ih =>
      rcases List.mem_append.mp (mem_of_extends_of_isChain hloop ih e) with hb | hb
      · exact hb
      · simp [List.mem_singleton.mp hb]
  rw [hdrop]
  have hdistinct := (List.nodup_append.mp c.distinct).2.1
  refine ⟨⟨type, rest, rfl, hdistinct, hcycle, front.length, hentry, ?_⟩, hloop⟩
  intro m hm a ha hac
  have hmem : a ∈ front := by
    rw [← hget (by simp; omega), List.getElem?_append_left hm] at ha
    exact List.mem_of_getElem? ha
  have hup : ReflTransGen h.Extends a type := by
    obtain ⟨k, hk⟩ : ∃ k, front.length = m + k := ⟨front.length - m, by omega⟩
    rw [hk, ascend?_add, ha, Option.bind_some] at hentry
    exact reaches_iff_ascend?.mpr ⟨k, hentry⟩
  exact (List.nodup_append.mp c.distinct).2.2 a hmem a (hclosed (hac.returns hup)) rfl

def Tells (h : Hierarchy) (start : String) : Walk → Prop
  | .ended trail => h.Ends start ∧ ∀ type ∈ trail, h.Ends type
  | .looped cycle => h.RunsInto start cycle

theorem Climb.ends_of_mem {start type : String} {trail : List String} {next? : Option String}
    (c : h.Climb start trail next?) (he : h.Ends start) (ht : type ∈ trail) : h.Ends type := by
  rw [c.passed] at ht
  obtain ⟨n, _, hn⟩ := mem_chain_iff.mp ht
  exact (ends_iff_of_reaches (reaches_iff_ascend?.mpr ⟨n, hn⟩)).mp he

theorem Walks.tells {settled trail : List String} {start : String} {next? : Option String} {outcome : Walk}
    (w : Walks h settled trail next? outcome) (c : h.Climb start trail next?)
    (hs : ∀ type ∈ settled, h.Ends type) : h.Tells start outcome := by
  induction w with
  | top trail =>
    have he : h.Ends start := ⟨trail.length, c.next_eq.symm⟩
    exact ⟨he, fun _ ht => c.ends_of_mem he ht⟩
  | @known trail type ht =>
    have hr : ReflTransGen h.Extends start type := reaches_iff_ascend?.mpr ⟨_, c.next_eq.symm⟩
    have he := (ends_iff_of_reaches hr).mpr (hs type ht)
    exact ⟨he, fun _ ht => c.ends_of_mem he ht⟩
  | back _ ht => exact c.runsInto ht
  | up _ ht _ ih => exact ih (c.step ht)

theorem searches_cycleFrom? (settled starts : List String) :
    Searches h settled starts (h.cycleFrom? settled starts) := by
  induction starts generalizing settled with
  | nil => exact .exhausted settled
  | cons start rest ih =>
    have hw := (Climb.initial h start).walks settled (h.size + 2) (by simp)
    rw [cycleFrom?]
    split
    · rename_i cycle hc
      exact .found (hc ▸ hw)
    · rename_i trail ht
      exact .next (ht ▸ hw) (ih _)

def SearchTells (h : Hierarchy) (starts : List String) : Option (List String) → Prop
  | none => ∀ start ∈ starts, h.Ends start
  | some cycle =>
    ∃ before start after, starts = before ++ start :: after ∧
      (∀ type ∈ before, h.Ends type) ∧ h.RunsInto start cycle

theorem Searches.tells {settled starts : List String} {found : Option (List String)}
    (s : Searches h settled starts found) (hs : ∀ type ∈ settled, h.Ends type) :
    h.SearchTells starts found := by
  induction s with
  | exhausted => simp [SearchTells]
  | @found _ rest _ start hw =>
    exact ⟨[], start, rest, rfl, by simp, hw.tells (.initial h start) hs⟩
  | @next _ rest trail start found hw _ ih =>
    obtain ⟨he, ht⟩ := hw.tells (.initial h start) hs
    have hsettled := ih fun type hm => (List.mem_append.mp hm).elim (hs type) (ht type)
    cases found with
    | none => simpa [SearchTells, he] using hsettled
    | some cycle =>
      obtain ⟨before, first, after, rfl, hb, hr⟩ := hsettled
      exact ⟨start :: before, first, after, rfl, by simpa [he] using hb, hr⟩

theorem RunsInto.not_ends {start : String} {cycle : List String} (hr : h.RunsInto start cycle) :
    ¬ h.Ends start := by
  obtain ⟨entry, _, _, _, hc, n, hn, _⟩ := hr.closed
  intro he
  exact hc.not_ends ((ends_iff_of_reaches (reaches_iff_ascend?.mpr ⟨n, hn⟩)).mp he)

/-- The first type with an edge, by bytes, whose chain never ends. -/
structure LeastUnending (h : Hierarchy) (start : String) : Prop where
  recorded : h.contains start = true
  unending : ¬ h.Ends start
  least : ∀ type, h.contains type = true → ¬ h.Ends type → type ≠ start →
    Text.utf8Bytes start < Text.utf8Bytes type

theorem leastUnending_of_keys {before after : List String} {start : String}
    (hk : h.edges.keys = before ++ start :: after) (hb : ∀ type ∈ before, h.Ends type)
    (hs : ¬ h.Ends start) : h.LeastUnending start := by
  refine ⟨SortedTable.contains_iff_mem_keys.mpr (by simp [hk]), hs, fun type ht hn hne => ?_⟩
  have hord := h.edges.keys_pairwise
  rw [hk] at hord
  have hafter := (List.pairwise_cons.mp (List.pairwise_append.mp hord).2.1).1
  rw [contains, SortedTable.contains_iff_mem_keys, hk] at ht
  rcases List.mem_append.mp ht with ht | ht
  · exact absurd (hb type ht) hn
  · rcases List.mem_cons.mp ht with rfl | ht
    · exact absurd rfl hne
    · exact Text.utf8Bytes_lt_iff.mpr (hafter type ht)

theorem isSome_cycle?_iff (h : Hierarchy) : h.cycle?.isSome = true ↔ ∃ type, h.OnCycle type := by
  have ht := (searches_cycleFrom? (h := h) [] h.edges.keys).tells (by simp)
  change h.SearchTells h.edges.keys h.cycle? at ht
  cases hf : h.cycle? with
  | none =>
    rw [hf] at ht
    simp only [Option.isSome_none, Bool.false_eq_true, false_iff, not_exists]
    intro type hc
    obtain ⟨b, e, _⟩ := TransGen.head'_iff.mp hc
    exact hc.not_ends (ht type e.mem_keys)
  | some cycle =>
    rw [hf] at ht
    obtain ⟨_, _, _, _, _, hr⟩ := ht
    obtain ⟨entry, _, _, _, hc, _⟩ := hr.closed
    simpa using ⟨entry, hc⟩

/-- The search, whose loops know no bound, ends with one result only. It finds nothing exactly when no type
reaches itself; what it finds is the cycle that the first never-ending chain runs into. -/
theorem cycle?_is_first_entered (h : Hierarchy) :
    (∀ found, Searches h [] h.edges.keys found ↔ found = h.cycle?) ∧
      (h.cycle? = none ↔ ∀ type, ¬ h.OnCycle type) ∧
      ∀ cycle, h.cycle? = some cycle → ∃ start, h.LeastUnending start ∧ h.RunsInto start cycle := by
  have hs : Searches h [] h.edges.keys h.cycle? := searches_cycleFrom? [] h.edges.keys
  have ht := hs.tells (by simp)
  refine ⟨fun found => ⟨fun hf => hf.unique hs, fun hf => hf ▸ hs⟩, ⟨?_, ?_⟩, ?_⟩
  · intro hnone type hc
    rw [hnone] at ht
    obtain ⟨b, e, _⟩ := TransGen.head'_iff.mp hc
    exact hc.not_ends (ht type e.mem_keys)
  · intro hall
    cases hf : h.cycle? with
    | none => rfl
    | some cycle =>
      rw [hf] at ht
      obtain ⟨_, _, _, _, _, hr⟩ := ht
      obtain ⟨entry, _, _, _, hc, _⟩ := hr.closed
      exact absurd hc (hall entry)
  · intro cycle hf
    rw [hf] at ht
    obtain ⟨before, start, after, hk, hb, hr⟩ := ht
    exact ⟨start, leastUnending_of_keys hk hb hr.not_ends, hr⟩

theorem cycle?_of_entered_pair :
    let h := ((empty.insert "a" (some "b")).insert "b" (some "c")).insert "c" (some "b")
    h.cycle? = some ["b", "c", "b"] ∧
      ∃ start, h.LeastUnending start ∧ h.RunsInto start ["b", "c", "b"] := by
  intro h
  have hf : h.cycle? = some ["b", "c", "b"] := by decide
  exact ⟨hf, (cycle?_is_first_entered h).2.2 _ hf⟩

end HostBinder.Hierarchy

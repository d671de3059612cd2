import HostBinder.Proofs.Hierarchy.Cycle
import Mathlib.Order.Defs.Unbundled

set_option autoImplicit false

namespace HostBinder.Hierarchy

open Relation

variable {h : Hierarchy} {a b c : String}

/-- The whole chain of a type: each type is followed by its recorded supertype, and the last one has none. -/
inductive EndsAlong (h : Hierarchy) : String → List String → Prop where
  | top {type : String} : h.supertype? type = none → EndsAlong h type [type]
  | up {type base : String} {rest : List String} : h.Extends type base → EndsAlong h base rest →
      EndsAlong h type (type :: rest)

theorem EndsAlong.getLast? {types : List String} (he : h.EndsAlong a types) :
    ∃ top, types.getLast? = some top ∧ h.supertype? top = none := by
  induction he with
  | @top type hnone => exact ⟨type, rfl, hnone⟩
  | @up type base rest _ htail ih =>
    obtain ⟨top, htop, hnone⟩ := ih
    refine ⟨top, ?_, hnone⟩
    cases htail <;> simpa using htop

theorem endsAlong_chain {n : Nat} (hn : h.ascend? n a = none) : h.EndsAlong a (h.chain n (some a)) := by
  induction n generalizing a with
  | zero => simp [ascend?] at hn
  | succ n ih =>
    rw [ascend?] at hn
    rw [chain]
    cases hs : h.supertype? a with
    | none =>
      rw [chain_none]
      exact .top hs
    | some b =>
      rw [hs, Option.bind_some] at hn
      exact .up hs (ih hn)

theorem onCycle_of_ascend?_eq {i j : Nat} (hij : i < j) (hi : h.ascend? i a = some b)
    (hj : h.ascend? j a = some b) : h.OnCycle b := by
  obtain ⟨k, rfl⟩ : ∃ k, j = i + (k + 1) := ⟨j - i - 1, by omega⟩
  rw [ascend?_add, hi, Option.bind_some, ascend?] at hj
  obtain ⟨c, e, hc⟩ := Option.bind_eq_some_iff.mp hj
  exact TransGen.head' e (reaches_iff_ascend?.mpr ⟨k, hc⟩)

theorem Ends.nodup_chain (he : h.Ends a) (n : Nat) : (h.chain n (some a)).Nodup := by
  refine nodup_chain_of_ne fun i j b hij _ hi hj => ?_
  have hb : h.Ends b := (ends_iff_of_reaches (reaches_iff_ascend?.mpr ⟨i, hi⟩)).mp he
  exact (onCycle_of_ascend?_eq hij hi hj).not_ends hb

theorem Ends.ascend?_eq_none (he : h.Ends a) : h.ascend? (h.size + 1) a = none := by
  rw [Option.eq_none_iff_forall_ne_some]
  intro b hb
  have hle := le_size_of_nodup hb (he.nodup_chain _)
  omega

theorem exists_ascend?_of_not_ends (hn : ¬h.Ends a) (n : Nat) : ∃ b, h.ascend? n a = some b :=
  Option.ne_none_iff_exists'.mp fun hnone => hn ⟨n, hnone⟩

theorem nodup_ancestors_iff : (h.ancestors a).Nodup ↔ h.Ends a := by
  refine ⟨fun hd => ?_, fun he => he.nodup_chain _⟩
  by_contra hn
  obtain ⟨b, hb⟩ := exists_ascend?_of_not_ends hn (h.size + 1)
  have hle := le_size_of_nodup hb hd
  omega

theorem exists_onCycle_of_not_ends (hn : ¬h.Ends a) : ∃ b, h.OnCycle b := by
  by_contra hnone
  refine hn (nodup_ancestors_iff.mp (nodup_chain_of_ne fun i j b hij _ hi hj => ?_))
  exact hnone ⟨b, onCycle_of_ascend?_eq hij hi hj⟩

theorem cycle?_eq_none_iff_ends : h.cycle? = none ↔ ∀ type, h.Ends type := by
  rw [← Option.not_isSome_iff_eq_none, isSome_cycle?_iff]
  constructor
  · intro hnone type
    by_contra hn
    exact hnone (exists_onCycle_of_not_ends hn)
  · rintro hall ⟨type, hc⟩
    exact hc.not_ends (hall type)

theorem eq_of_reaches_both (hacyclic : ∀ type, ¬h.OnCycle type) (hab : ReflTransGen h.Extends a b)
    (hba : ReflTransGen h.Extends b a) : a = b := by
  rcases reflTransGen_iff_eq_or_transGen.mp hab with heq | hup
  · exact heq.symm
  · exact absurd (hup.trans_left hba) (hacyclic a)

theorem reaches_or_reaches (hab : ReflTransGen h.Extends a b) (hac : ReflTransGen h.Extends a c) :
    ReflTransGen h.Extends b c ∨ ReflTransGen h.Extends c b :=
  ReflTransGen.total_of_right_unique (fun _ _ _ hb hc => hb.unique hc) hab hac

/-- A chain that ends is listed whole, a chain that does not is listed up to one type more than there are edges,
and no cycle is found exactly when no list has a type twice. Conformance is an order then, and the types that a
type conforms to stand one above the other. -/
theorem ancestors_follow_chain (h : Hierarchy) :
    (∀ type, h.Ends type → h.EndsAlong type (h.ancestors type) ∧ (h.ancestors type).Nodup ∧
      ∃ top, (h.ancestors type).getLast? = some top ∧ h.supertype? top = none) ∧
    (∀ type, ¬h.Ends type → (h.ancestors type).length = h.size + 1 ∧
      (∀ i ≤ h.size, (h.ancestors type)[i]? = h.ascend? i type) ∧ ¬(h.ancestors type).Nodup) ∧
    (h.cycle? = none ↔ ∀ type, (h.ancestors type).Nodup) ∧
    (h.cycle? = none → IsPartialOrder String (fun type base => h.conforms type base = true) ∧
      ∀ type b c, h.conforms type b = true → h.conforms type c = true →
        h.conforms b c = true ∨ h.conforms c b = true) := by
  refine ⟨fun type he => ?_, fun type hn => ?_, ?_, fun hnone => ?_⟩
  · have hwhole : h.EndsAlong type (h.ancestors type) := endsAlong_chain he.ascend?_eq_none
    exact ⟨hwhole, he.nodup_chain _, hwhole.getLast?⟩
  · obtain ⟨b, hb⟩ := exists_ascend?_of_not_ends hn (h.size + 1)
    exact ⟨length_chain hb, fun i hi => getElem?_chain (by omega) type, mt nodup_ancestors_iff.mp hn⟩
  · simp only [cycle?_eq_none_iff_ends, nodup_ancestors_iff]
  · have hreaches : ∀ type base, h.conforms type base = true ↔ ReflTransGen h.Extends type base := fun type base => by
      rw [conforms, List.contains_iff_mem, mem_ancestors_iff]
    have hacyclic : ∀ type, ¬h.OnCycle type := fun type hc => hc.not_ends (cycle?_eq_none_iff_ends.mp hnone type)
    simp only [hreaches]
    refine ⟨?_, fun type b c => reaches_or_reaches⟩
    exact { refl := fun _ => .refl, trans := fun _ _ _ => .trans, antisymm := fun _ _ => eq_of_reaches_both hacyclic }

theorem ancestors_of_ending_and_entered :
    let h := (((empty.insert "a" (some "b")).insert "b" (some "c")).insert "c" (some "b")).insert "x" (some "y")
    let forest := (empty.insert "a" (some "b")).insert "c" (some "b")
    (h.Ends "x" ∧ h.EndsAlong "x" ["x", "y"]) ∧
      (¬h.Ends "a" ∧ (h.ancestors "a").length = h.size + 1 ∧ ¬(h.ancestors "a").Nodup) ∧
      forest.cycle? = none ∧ IsPartialOrder String (fun type base => forest.conforms type base = true) := by
  intro h forest
  have hx : h.Ends "x" := ⟨2, by decide⟩
  have ha : ¬h.Ends "a" := mt nodup_ancestors_iff.mpr (by decide)
  have hforest : forest.cycle? = none := by decide
  have hnever := (ancestors_follow_chain h).2.1 "a" ha
  exact ⟨⟨hx, ((ancestors_follow_chain h).1 "x" hx).1⟩, ⟨ha, hnever.1, hnever.2.2⟩, hforest,
    ((ancestors_follow_chain forest).2.2.2 hforest).1⟩

end HostBinder.Hierarchy

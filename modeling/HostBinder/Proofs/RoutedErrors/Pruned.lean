import HostBinder.Proofs.Entries
import HostBinder.Proofs.RoutedErrors.Merging
import Mathlib.Logic.Relation

set_option autoImplicit false

/-!
The trees that recording and merging can build. A subtree is only put where it has a message, so no subtree without
messages is ever stored, however deep; a tree without messages is then the empty tree itself.
-/

namespace HostBinder.RoutedErrors

variable {μ : Type} {t u : RoutedErrors μ} {route : String}

/-- A tree built from empty trees by recording messages, adding children and merging. -/
inductive Reachable : RoutedErrors μ → Prop where
  | empty : Reachable empty
  | add {t : RoutedErrors μ} (m : μ) : Reachable t → Reachable (t.add m)
  | addChild {t child : RoutedErrors μ} (route : String) : Reachable t → Reachable child →
      Reachable (t.addChild route child)
  | merge {t u : RoutedErrors μ} : Reachable t → Reachable u → Reachable (t.merge u)

def HasChild (t u : RoutedErrors μ) : Prop := ∃ route, (route, u) ∈ t.routes

/-- Each subtree stands under its own segment, in order, and holds a message; and so on in the subtrees. -/
inductive Pruned : RoutedErrors μ → Prop where
  | node {ms : List μ} {rs : List (String × RoutedErrors μ)} : KeysIncrease rs →
      (∀ e ∈ rs, e.2.isEmpty = false) → (∀ e ∈ rs, Pruned e.2) → Pruned (.node ms rs)

structure PrunedRoutes (rs : List (String × RoutedErrors μ)) : Prop where
  increasing : KeysIncrease rs
  nonempty : ∀ e ∈ rs, e.2.isEmpty = false
  pruned : ∀ e ∈ rs, e.2.Pruned

theorem pruned_node_iff {ms : List μ} {rs : List (String × RoutedErrors μ)} :
    (node ms rs).Pruned ↔ PrunedRoutes rs := by
  constructor
  · intro h
    cases h with
    | node hi hne hp => exact ⟨hi, hne, hp⟩
  · intro h
    exact .node h.increasing h.nonempty h.pruned

theorem Pruned.routes (h : t.Pruned) : PrunedRoutes t.routes := by
  cases t
  exact pruned_node_iff.mp h

theorem Pruned.empty : (RoutedErrors.empty : RoutedErrors μ).Pruned :=
  pruned_node_iff.mpr ⟨List.Pairwise.nil, by simp, by simp⟩

theorem isEmpty_eq_false_iff : t.isEmpty = false ↔ t.count ≠ 0 := by
  rw [← Bool.not_eq_true, isEmpty_iff]

theorem isEmpty_merge_eq_false (t : RoutedErrors μ) (hu : u.isEmpty = false) : (t.merge u).isEmpty = false := by
  rw [isEmpty_eq_false_iff] at hu ⊢
  rw [count_merge]
  omega

theorem areEmpty_iff_forall {rs : List (String × RoutedErrors μ)} :
    areEmpty rs = true ↔ ∀ e ∈ rs, e.2.isEmpty = true := by
  induction rs with
  | nil => simp [areEmpty]
  | cons entry rest ih => simp [areEmpty, ih]

mutual

theorem Pruned.merge : ∀ {u t : RoutedErrors μ}, t.Pruned → u.Pruned → (t.merge u).Pruned
  | .node ms rs, t, ht, hu => by
    rw [RoutedErrors.merge, pruned_node_iff]
    exact ht.routes.graft (pruned_node_iff.mp hu)

theorem PrunedRoutes.graft : ∀ {rs onto : List (String × RoutedErrors μ)}, PrunedRoutes onto → PrunedRoutes rs →
    PrunedRoutes (graft onto rs)
  | [], onto, ho, _ => by
    rw [RoutedErrors.graft]
    exact ho
  | (route, t) :: rest, onto, ho, hr => by
    obtain ⟨ht, hne⟩ := List.forall_mem_cons.mp hr.nonempty
    obtain ⟨htp, hp⟩ := List.forall_mem_cons.mp hr.pruned
    rw [RoutedErrors.graft, if_neg (by simp [ht])]
    have hgrown : PrunedRoutes (alterEntry route (fun old => RoutedErrors.merge (old.getD .empty) t) onto) := by
      refine ⟨ho.increasing.alterEntry, ?_, ?_⟩
      · exact forall_alterEntry (p := (isEmpty · = false)) (isEmpty_merge_eq_false _ ht)
          (fun x _ => isEmpty_merge_eq_false x ht) ho.nonempty
      · exact forall_alterEntry (Pruned.empty.merge htp) (fun x hx => hx.merge htp) ho.pruned
    exact hgrown.graft ⟨(List.pairwise_cons.mp hr.increasing).2, hne, hp⟩

end

theorem Pruned.add (ht : t.Pruned) (m : μ) : (t.add m).Pruned := pruned_node_iff.mpr ht.routes

theorem addChild_eq_merge (t child : RoutedErrors μ) (route : String) :
    t.addChild route child = t.merge (.node [] [(route, child)]) := by
  rw [addChild, RoutedErrors.merge, List.append_nil]

theorem addChild_of_isEmpty (t : RoutedErrors μ) {child : RoutedErrors μ} (h : child.isEmpty = true) (route : String) :
    t.addChild route child = t := by
  cases t
  simp [addChild, graft, h]

theorem Pruned.singleRoute {child : RoutedErrors μ} (h : child.Pruned) (hne : child.isEmpty = false) (route : String) :
    (RoutedErrors.node [] [(route, child)]).Pruned :=
  pruned_node_iff.mpr ⟨List.pairwise_singleton _ _, by simpa using hne, by simpa using h⟩

theorem Pruned.addChild {child : RoutedErrors μ} (ht : t.Pruned) (hc : child.Pruned) (route : String) :
    (t.addChild route child).Pruned := by
  cases hempty : child.isEmpty with
  | true => rwa [addChild_of_isEmpty t hempty]
  | false =>
    rw [addChild_eq_merge]
    exact ht.merge (hc.singleRoute hempty route)

theorem Reachable.pruned (h : t.Reachable) : t.Pruned := by
  induction h with
  | empty => exact Pruned.empty
  | add m _ ih => exact ih.add m
  | addChild route _ _ iht ihc => exact iht.addChild ihc route
  | merge _ _ iht ihu => exact iht.merge ihu

theorem Pruned.isEmpty_stored (ht : t.Pruned) (hu : Relation.TransGen HasChild t u) : u.isEmpty = false := by
  induction hu using Relation.TransGen.head_induction_on with
  | single hchild =>
    obtain ⟨route, hmem⟩ := hchild
    exact ht.routes.nonempty _ hmem
  | head hchild _ ih =>
    obtain ⟨route, hmem⟩ := hchild
    exact ih (ht.routes.pruned _ hmem)

theorem Pruned.isEmpty_iff_eq_empty (ht : t.Pruned) : t.isEmpty = true ↔ t = RoutedErrors.empty := by
  constructor
  · intro h
    obtain ⟨ms, rs⟩ := t
    rw [isEmpty, Bool.and_eq_true, List.isEmpty_iff, areEmpty_iff_forall] at h
    obtain ⟨rfl, hall⟩ := h
    have hnil : rs = [] := by
      refine List.eq_nil_iff_forall_not_mem.mpr fun e he => ?_
      simpa [hall e he] using ht.routes.nonempty e he
    rw [hnil]
    rfl
  · rintro rfl
    rfl

mutual

theorem same_iff_eq [BEq μ] [LawfulBEq μ] : ∀ {t u : RoutedErrors μ}, t.same u = true ↔ t = u
  | .node ms rs, .node ms' rs' => by
    rw [same, Bool.and_eq_true, beq_iff_eq, sameAll_iff_eq, node.injEq]

theorem sameAll_iff_eq [BEq μ] [LawfulBEq μ] :
    ∀ {rs rs' : List (String × RoutedErrors μ)}, sameAll rs rs' = true ↔ rs = rs'
  | [], [] => by simp [sameAll]
  | [], _ :: _ => by simp [sameAll]
  | _ :: _, [] => by simp [sameAll]
  | (route, t) :: rest, (route', t') :: rest' => by
    rw [sameAll, Bool.and_eq_true, Bool.and_eq_true, beq_iff_eq, same_iff_eq, sameAll_iff_eq, List.cons.injEq,
      Prod.mk.injEq]

end

end HostBinder.RoutedErrors

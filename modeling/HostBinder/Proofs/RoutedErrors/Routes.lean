import HostBinder.Proofs.RoutedErrors.Pruned
import Mathlib.Data.List.TFAE
import Mathlib.Tactic.TFAE

set_option autoImplicit false

namespace HostBinder.RoutedErrors

open Relation

variable {μ : Type} {a b c t u : RoutedErrors μ} {segment : String} {route : List String}

/-- The messages recorded under a route, which is given by its segments. -/
def messagesAt : List String → RoutedErrors μ → List μ
  | [], t => t.messages
  | segment :: route, t => (t.routes.lookup segment).elim [] (messagesAt route)

@[simp] theorem messagesAt_nil (t : RoutedErrors μ) : t.messagesAt [] = t.messages := rfl

theorem messagesAt_cons (segment : String) (route : List String) (t : RoutedErrors μ) :
    t.messagesAt (segment :: route) = (t.routes.lookup segment).elim [] (messagesAt route) := rfl

@[simp] theorem messagesAt_empty (route : List String) : (empty : RoutedErrors μ).messagesAt route = [] := by
  cases route <;> rfl

@[simp] theorem messagesAt_single_self (child : RoutedErrors μ) (segment : String) (route : List String) :
    (node [] [(segment, child)]).messagesAt (segment :: route) = child.messagesAt route := by
  simp [messagesAt_cons]

theorem messagesAt_single_of_head_ne (child : RoutedErrors μ) (h : route.head? ≠ some segment) :
    (node [] [(segment, child)]).messagesAt route = [] := by
  cases route with
  | nil => rfl
  | cons s route =>
    have hne : s ≠ segment := by simpa using h
    simp [messagesAt_cons, List.lookup_cons, beq_false_of_ne hne]

theorem lookup_graft {onto rs : List (String × RoutedErrors μ)} (ho : KeysIncrease onto) (hr : PrunedRoutes rs)
    (segment : String) :
    (graft onto rs).lookup segment =
      (rs.lookup segment).elim (onto.lookup segment) fun u => some (((onto.lookup segment).getD empty).merge u) := by
  induction rs generalizing onto with
  | nil => rw [graft]; rfl
  | cons e rest ih =>
    obtain ⟨s, u⟩ := e
    obtain ⟨hu, hne⟩ := List.forall_mem_cons.mp hr.nonempty
    have hrest : PrunedRoutes rest :=
      ⟨(List.pairwise_cons.mp hr.increasing).2, hne, (List.forall_mem_cons.mp hr.pruned).2⟩
    rw [graft, if_neg (by simp [hu]), ih ho.alterEntry hrest]
    by_cases hs : segment = s
    · subst hs
      rw [lookup_eq_none_of_head hr.increasing.differ, lookup_alterEntry_self segment _ ho]
      simp
    · rw [lookup_alterEntry_of_ne hs, List.lookup_cons, beq_false_of_ne hs]

theorem Pruned.of_lookup (ht : t.Pruned) (h : t.routes.lookup segment = some u) : u.Pruned :=
  ht.routes.pruned (segment, u) (ht.routes.increasing.differ.mem_iff_lookup.mpr h)

theorem messagesAt_merge (ht : t.Pruned) (hu : u.Pruned) :
    (t.merge u).messagesAt route = t.messagesAt route ++ u.messagesAt route := by
  induction route generalizing t u with
  | nil =>
    cases u
    rfl
  | cons segment route ih =>
    obtain ⟨ms, rs⟩ := u
    have hroutes : (t.merge (node ms rs)).routes = graft t.routes rs := rfl
    have hrs : PrunedRoutes rs := hu.routes
    rw [messagesAt_cons, messagesAt_cons, messagesAt_cons, hroutes, routes_node,
      lookup_graft ht.routes.increasing hrs]
    cases hnew : rs.lookup segment with
    | none => simp
    | some v =>
      have hv : v.Pruned := hu.of_lookup hnew
      cases hold : t.routes.lookup segment with
      | none => simpa using ih Pruned.empty hv
      | some x => simpa using ih (ht.of_lookup hold) hv

theorem messagesAt_of_isEmpty (ht : t.Pruned) (h : t.isEmpty = true) : t.messagesAt route = [] := by
  rw [ht.isEmpty_iff_eq_empty.mp h, messagesAt_empty]

theorem messagesAt_addChild {child : RoutedErrors μ} (ht : t.Pruned) (hc : child.Pruned) :
    (t.addChild segment child).messagesAt route =
      t.messagesAt route ++ (node [] [(segment, child)]).messagesAt route := by
  cases hempty : child.isEmpty with
  | true =>
    have hnone : (node [] [(segment, child)]).messagesAt route = [] := by
      by_cases hhead : route.head? = some segment
      · obtain ⟨tail, rfl⟩ := List.head?_eq_some_iff.mp hhead
        rw [messagesAt_single_self, messagesAt_of_isEmpty hc hempty]
      · exact messagesAt_single_of_head_ne child hhead
    rw [addChild_of_isEmpty t hempty, hnone, List.append_nil]
  | false => rw [addChild_eq_merge, messagesAt_merge ht (hc.singleRoute hempty segment)]

theorem Pruned.exists_messagesAt_ne_nil (ht : t.Pruned) (h : t.isEmpty = false) : ∃ route, t.messagesAt route ≠ [] := by
  induction ht with
  | @node ms rs hi hne _ ih =>
    by_cases hms : ms = []
    · subst hms
      obtain ⟨e, he⟩ : ∃ e, e ∈ rs := by
        refine List.exists_mem_of_ne_nil rs ?_
        rintro rfl
        cases h
      obtain ⟨route, hroute⟩ := ih e he (hne e he)
      refine ⟨e.1 :: route, ?_⟩
      rwa [messagesAt_cons, routes_node, hi.differ.lookup_of_mem he]
    · exact ⟨[], hms⟩

/-- A subtree is stored only where a message is. -/
theorem Pruned.exists_messagesAt_cons (ht : t.Pruned) (h : t.routes.lookup segment = some u) :
    ∃ route, t.messagesAt (segment :: route) ≠ [] := by
  have hmem : (segment, u) ∈ t.routes := ht.routes.increasing.differ.mem_iff_lookup.mpr h
  obtain ⟨route, hroute⟩ := (ht.of_lookup h).exists_messagesAt_ne_nil (ht.routes.nonempty _ hmem)
  refine ⟨route, ?_⟩
  rwa [messagesAt_cons, h]

theorem Pruned.eq_of_messagesAt_eq (ht : t.Pruned) (hu : u.Pruned)
    (h : ∀ route, t.messagesAt route = u.messagesAt route) : t = u := by
  induction ht generalizing u with
  | @node ms rs hi hne hp ih =>
    have ht : (RoutedErrors.node ms rs).Pruned := .node hi hne hp
    obtain ⟨ms', rs'⟩ := u
    obtain rfl : ms = ms' := h []
    congr 1
    refine hi.eq_of_lookup_eq hu.routes.increasing fun segment => ?_
    have hbelow : ∀ route, (rs.lookup segment).elim [] (messagesAt route) =
        (rs'.lookup segment).elim [] (messagesAt route) := fun route => h (segment :: route)
    cases hx : rs.lookup segment with
    | none =>
      cases hy : rs'.lookup segment with
      | none => rfl
      | some y =>
        obtain ⟨route, hroute⟩ := hu.exists_messagesAt_cons hy
        rw [← h, messagesAt_cons, routes_node, hx] at hroute
        exact absurd rfl hroute
    | some x =>
      cases hy : rs'.lookup segment with
      | none =>
        obtain ⟨route, hroute⟩ := ht.exists_messagesAt_cons hx
        rw [h, messagesAt_cons, routes_node, hy] at hroute
        exact absurd rfl hroute
      | some y =>
        simp only [hx, hy, Option.elim_some] at hbelow
        exact congrArg some (ih _ (hi.differ.mem_iff_lookup.mpr hx) (hu.of_lookup hy) hbelow)

theorem Pruned.empty_merge (ht : t.Pruned) : RoutedErrors.empty.merge t = t :=
  (Pruned.empty.merge ht).eq_of_messagesAt_eq ht fun route => by
    rw [messagesAt_merge Pruned.empty ht, messagesAt_empty, List.nil_append]

theorem merge_empty (t : RoutedErrors μ) : t.merge empty = t := by
  cases t
  simp [empty, merge, graft]

theorem Pruned.merge_assoc (ha : a.Pruned) (hb : b.Pruned) (hc : c.Pruned) :
    (a.merge b).merge c = a.merge (b.merge c) :=
  ((ha.merge hb).merge hc).eq_of_messagesAt_eq (ha.merge (hb.merge hc)) fun route => by
    rw [messagesAt_merge (ha.merge hb) hc, messagesAt_merge ha hb, messagesAt_merge ha (hb.merge hc),
      messagesAt_merge hb hc, List.append_assoc]

/-- No subtree without messages is stored, so a tree without messages is the empty tree, by every test of it; and
trees are equal as values if they have the same messages at every route. -/
theorem Reachable.told_by_messages [BEq μ] [LawfulBEq μ] (ht : t.Reachable) (hu : u.Reachable) :
    (∀ v, TransGen HasChild t v → v.isEmpty = false) ∧
      [t.isEmpty = true, t.count = 0, t.flatten = [], t.result = .ok (), t.same .empty = true].TFAE ∧
      (t.same u = true ↔ ∀ route, t.messagesAt route = u.messagesAt route) := by
  have hcount : t.isEmpty = true ↔ t.count = 0 := isEmpty_iff t
  have hflatten : t.count = 0 ↔ t.flatten = [] := by rw [← length_flatten, List.length_eq_zero_iff]
  have hresult : t.result = .ok () ↔ t.count = 0 := result_eq_ok_iff
  have hsame : t.isEmpty = true ↔ t.same .empty = true := ht.pruned.isEmpty_iff_eq_empty.trans same_iff_eq.symm
  refine ⟨fun v hv => ht.pruned.isEmpty_stored hv, ?_, ?_⟩
  · tfae_have 1 ↔ 2 := hcount
    tfae_have 2 ↔ 3 := hflatten
    tfae_have 4 ↔ 2 := hresult
    tfae_have 1 ↔ 5 := hsame
    tfae_finish
  · rw [same_iff_eq]
    exact ⟨fun heq route => heq ▸ rfl, ht.pruned.eq_of_messagesAt_eq hu.pruned⟩

theorem told_by_messages_of_two_orders :
    let left := (empty.addChild "b" (empty.add "m")).addChild "a" (empty.add "n")
    let right := ((empty.addChild "a" (empty.add "n")).addChild "c" empty).merge (empty.addChild "b" (empty.add "m"))
    left.Reachable ∧ right.Reachable ∧ left.same right = true ∧
      (left.same right = true ↔ ∀ route, left.messagesAt route = right.messagesAt route) := by
  intro left right
  have hleft : left.Reachable := .addChild "a" (.addChild "b" .empty (.add "m" .empty)) (.add "n" .empty)
  have hright : right.Reachable :=
    .merge (.addChild "c" (.addChild "a" .empty (.add "n" .empty)) .empty) (.addChild "b" .empty (.add "m" .empty))
  exact ⟨hleft, hright, by decide, (hleft.told_by_messages hright).2.2⟩

/-- Merging puts message lists one behind the other, a child gives its own to the routes through its segment, and
nothing else changes; so merging is associative with the empty tree for its unit, and no message is lost. -/
theorem Reachable.merged_by_route (ha : a.Reachable) (hb : b.Reachable) (hc : c.Reachable) (segment : String) :
    (∀ route, (a.merge b).messagesAt route = a.messagesAt route ++ b.messagesAt route) ∧
      (∀ route, (a.addChild segment b).messagesAt (segment :: route) =
        a.messagesAt (segment :: route) ++ b.messagesAt route) ∧
      (∀ route, route.head? ≠ some segment → (a.addChild segment b).messagesAt route = a.messagesAt route) ∧
      (a.merge b).merge c = a.merge (b.merge c) ∧ a.merge .empty = a ∧ RoutedErrors.empty.merge a = a ∧
      (a.merge b).count = a.count + b.count ∧ (a.addChild segment b).count = a.count + b.count := by
  refine ⟨fun route => messagesAt_merge ha.pruned hb.pruned, fun route => ?_, fun route hroute => ?_,
    ha.pruned.merge_assoc hb.pruned hc.pruned, merge_empty a, ha.pruned.empty_merge, count_merge a b,
    count_addChild a b segment⟩
  · rw [messagesAt_addChild ha.pruned hb.pruned, messagesAt_single_self]
  · rw [messagesAt_addChild ha.pruned hb.pruned, messagesAt_single_of_head_ne b hroute, List.append_nil]

theorem merged_by_route_of_shared_segment :
    let a := empty.addChild "x" (empty.add "m")
    let b := (empty.add "n").addChild "x" (empty.add "o")
    a.Reachable ∧ b.Reachable ∧ (a.merge b).messagesAt ["x"] = ["m", "o"] ∧
      (a.addChild "x" b).messagesAt ["x", "x"] = ["o"] ∧ (a.addChild "x" b).count = 3 ∧
      (a.merge b).merge a = a.merge (b.merge a) := by
  intro a b
  have ha : a.Reachable := .addChild "x" .empty (.add "m" .empty)
  have hb : b.Reachable := .addChild "x" (.add "n" .empty) (.add "o" .empty)
  obtain ⟨hmerge, hchild, _, hassoc, _, _, _, hcount⟩ := ha.merged_by_route hb ha "x"
  exact ⟨ha, hb, hmerge ["x"], hchild ["x"], hcount, hassoc⟩

end HostBinder.RoutedErrors

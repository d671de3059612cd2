import HostBinder.Binder.Slots
import HostBinder.Proofs.Binder.Groups
import Mathlib.Data.List.Induction

set_option autoImplicit false

namespace HostBinder

variable {d : FieldDecl} {gs : List HostGroup}

theorem HostGroup.admits_iff {g : HostGroup} : g.admits d = true ↔ g.hostKey = d.hostKey := by
  simp [admits, hostKey, FieldDecl.hostKey]

namespace GroupSlots

variable {s : GroupSlots}

/-- The index has the slot of each group under the host of the group, and nothing else. -/
def Indexed (s : GroupSlots) : Prop :=
  ∀ key i, s.index.lookup key = some i ↔ (s.groups.map HostGroup.hostKey)[i]? = some key

theorem indexed_empty : empty.Indexed := fun key i => by simp [empty]

theorem addToGroups_eq_set {g : HostGroup} {i : Nat} (hg : gs[i]? = some g) (hadmits : g.admits d = true)
    (hfirst : ∀ j < i, ∀ g', gs[j]? = some g' → g'.admits d = false) :
    addToGroups d gs = gs.set i { g with declarations := g.declarations ++ [d] } := by
  induction gs generalizing i with
  | nil => cases hg
  | cons g' gs ih =>
    cases i with
    | zero =>
      obtain rfl : g' = g := Option.some.inj hg
      rw [addToGroups, if_pos hadmits, List.set_cons_zero]
    | succ i =>
      have hg' : g'.admits d = false := hfirst 0 (Nat.zero_lt_succ i) g' rfl
      rw [addToGroups, if_neg (by simp [hg']), List.set_cons_succ,
        ih hg fun j hj => hfirst (j + 1) (Nat.succ_lt_succ hj)]

theorem exists_slot (hs : s.Indexed) {i : Nat} (hi : s.index.lookup d.hostKey = some i) :
    ∃ g, s.groups[i]? = some g ∧ g.hostKey = d.hostKey := by
  have hkey := (hs _ _).mp hi
  rw [List.getElem?_map] at hkey
  exact Option.map_eq_some_iff.mp hkey

theorem add?_of_slot (hs : s.Indexed) {i : Nat} (hi : s.index.lookup d.hostKey = some i) :
    ∃ s', s.add? d = some s' ∧ s'.Indexed ∧ s'.groups = addToGroups d s.groups := by
  obtain ⟨g, hg, hkey⟩ := exists_slot hs hi
  have hslot : s.slot d = (i, s) := by rw [slot, hi]
  have hadd : s.add? d =
      some { s with groups := s.groups.set i { g with declarations := g.declarations ++ [d] } } := by
    rw [add?, hslot, put?, hg, Option.map_some]
  refine ⟨_, hadd, fun key j => ?_, ?_⟩
  · -- the hosts of the groups are the same as before
    have hsame : (s.groups.set i { g with declarations := g.declarations ++ [d] }).map HostGroup.hostKey =
        s.groups.map HostGroup.hostKey := by
      have hi' : (s.groups.map HostGroup.hostKey)[i]? = some g.hostKey := by rw [List.getElem?_map, hg, Option.map_some]
      obtain ⟨hlt, hget⟩ := List.getElem?_eq_some_iff.mp hi'
      rw [List.map_set]
      show (s.groups.map HostGroup.hostKey).set i g.hostKey = _
      rw [← hget, List.set_getElem_self]
    rw [hsame]
    exact hs key j
  · symm
    refine addToGroups_eq_set hg (HostGroup.admits_iff.mpr hkey) fun j hj g' hg' => ?_
    rw [← Bool.not_eq_true, HostGroup.admits_iff]
    intro hkey'
    have hj' : s.index.lookup d.hostKey = some j := (hs _ _).mpr (by rw [List.getElem?_map, hg', ← hkey']; rfl)
    rw [hi] at hj'
    exact absurd (Option.some.inj hj') (by omega)

theorem getElem?_concat_eq_some_iff {α : Type} {l : List α} {x a : α} {i : Nat} :
    (l ++ [x])[i]? = some a ↔ l[i]? = some a ∨ i = l.length ∧ x = a := by
  rcases Nat.lt_trichotomy i l.length with hlt | rfl | hgt
  · simp [List.getElem?_append_left hlt, Nat.ne_of_lt hlt]
  · simp
  · simp [List.getElem?_eq_none (Nat.le_of_lt hgt), List.getElem?_append_right (Nat.le_of_lt hgt),
      Nat.ne_of_gt hgt, Nat.sub_ne_zero_of_lt hgt]

theorem add?_of_no_slot (hs : s.Indexed) (hi : s.index.lookup d.hostKey = none) :
    ∃ s', s.add? d = some s' ∧ s'.Indexed ∧ s'.groups = addToGroups d s.groups := by
  have hslot : s.slot d = (s.groups.length,
      ⟨s.groups ++ [⟨d.package, d.host, []⟩], (d.hostKey, s.groups.length) :: s.index⟩) := by rw [slot, hi]
  have hadd : s.add? d =
      some ⟨s.groups ++ [⟨d.package, d.host, [d]⟩], (d.hostKey, s.groups.length) :: s.index⟩ := by
    rw [add?, hslot]
    simp [put?]
  have hnone : d.hostKey ∉ s.groups.map HostGroup.hostKey := by
    intro hmem
    obtain ⟨i, hget⟩ := List.mem_iff_getElem?.mp hmem
    rw [(hs _ i).mpr hget] at hi
    cases hi
  refine ⟨_, hadd, fun key i => ?_, ?_⟩
  · have hlast : (s.groups ++ [(⟨d.package, d.host, [d]⟩ : HostGroup)]).map HostGroup.hostKey =
        s.groups.map HostGroup.hostKey ++ [d.hostKey] := by
      rw [List.map_append]
      rfl
    rw [hlast, getElem?_concat_eq_some_iff, ← hs key i, List.length_map]
    by_cases hkey : key = d.hostKey
    · subst hkey
      simp [hi, eq_comm]
    · simp [List.lookup_cons, beq_false_of_ne hkey, Ne.symm hkey]
  · refine (addToGroups_of_not_admits fun g hg => ?_).symm
    rw [← Bool.not_eq_true, HostGroup.admits_iff]
    exact fun hkey => hnone (hkey ▸ List.mem_map_of_mem hg)

theorem exists_add? (hs : s.Indexed) (d : FieldDecl) :
    ∃ s', s.add? d = some s' ∧ s'.Indexed ∧ s'.groups = addToGroups d s.groups := by
  cases hi : s.index.lookup d.hostKey with
  | some i => exact add?_of_slot hs hi
  | none => exact add?_of_no_slot hs hi

theorem exists_foldlM_add? (hs : s.Indexed) (ds : List FieldDecl) :
    ∃ s', ds.foldlM add? s = some s' ∧ s'.groups = ds.foldl (fun gs d => addToGroups d gs) s.groups := by
  induction ds generalizing s with
  | nil => exact ⟨s, rfl, rfl⟩
  | cons d ds ih =>
    obtain ⟨s₁, hadd, hs₁, hgroups⟩ := exists_add? hs d
    obtain ⟨s₂, hrest, hgroups₂⟩ := ih hs₁
    exact ⟨s₂, by rw [List.foldlM_cons, hadd]; exact hrest, by rw [hgroups₂, hgroups, List.foldl_cons]⟩

end GroupSlots

theorem groupBySlot?_eq_some (ds : List FieldDecl) : groupBySlot? ds = some (groupByHost ds) := by
  obtain ⟨s, hs, hgroups⟩ := GroupSlots.exists_foldlM_add? GroupSlots.indexed_empty ds
  rw [groupBySlot?, hs, Option.map_some, hgroups]
  rfl

theorem map_hostKey_addToGroups (d : FieldDecl) (gs : List HostGroup) :
    (addToGroups d gs).map HostGroup.hostKey =
      if d.hostKey ∈ gs.map HostGroup.hostKey then gs.map HostGroup.hostKey
      else gs.map HostGroup.hostKey ++ [d.hostKey] := by
  induction gs with
  | nil => rfl
  | cons g gs ih =>
    rw [addToGroups]
    by_cases hg : g.admits d = true
    · have hkey := HostGroup.admits_iff.mp hg
      rw [if_pos hg, if_pos (by simp [hkey])]
      rfl
    · have hkey : ¬d.hostKey = g.hostKey := fun h => hg (HostGroup.admits_iff.mpr h.symm)
      rw [if_neg hg, List.map_cons, ih]
      by_cases hmem : d.hostKey ∈ gs.map HostGroup.hostKey <;> simp [hmem, hkey]

theorem flatMap_declarations_addToGroups (d : FieldDecl) (gs : List HostGroup) :
    ((addToGroups d gs).flatMap HostGroup.declarations).Perm (gs.flatMap HostGroup.declarations ++ [d]) := by
  induction gs with
  | nil => exact List.Perm.refl _
  | cons g gs ih =>
    rw [addToGroups]
    split
    · rw [List.flatMap_cons, List.flatMap_cons, List.append_assoc, List.append_assoc]
      exact List.perm_append_comm.append_left _
    · rw [List.flatMap_cons, List.flatMap_cons, List.append_assoc]
      exact ih.append_left _

theorem cases_of_mem_addToGroups (hnodup : (gs.map HostGroup.hostKey).Nodup) {g : HostGroup}
    (hg : g ∈ addToGroups d gs) :
    (g ∈ gs ∧ g.hostKey ≠ d.hostKey) ∨
      (∃ old ∈ gs, old.hostKey = d.hostKey ∧ g = { old with declarations := old.declarations ++ [d] }) ∨
      (d.hostKey ∉ gs.map HostGroup.hostKey ∧ g = ⟨d.package, d.host, [d]⟩) := by
  induction gs with
  | nil => exact .inr (.inr ⟨List.not_mem_nil, List.mem_singleton.mp hg⟩)
  | cons first gs ih =>
    rw [List.map_cons, List.nodup_cons] at hnodup
    obtain ⟨hfirst, hnodup⟩ := hnodup
    rw [addToGroups] at hg
    split at hg
    · rename_i hadmits
      have hkey := HostGroup.admits_iff.mp hadmits
      rcases List.mem_cons.mp hg with rfl | hg
      · exact .inr (.inl ⟨first, List.mem_cons_self, hkey, rfl⟩)
      · refine .inl ⟨List.mem_cons_of_mem _ hg, fun heq => hfirst ?_⟩
        rw [hkey, ← heq]
        exact List.mem_map_of_mem hg
    · rename_i hadmits
      have hkey : first.hostKey ≠ d.hostKey := fun heq => hadmits (HostGroup.admits_iff.mpr heq)
      rcases List.mem_cons.mp hg with rfl | hg
      · exact .inl ⟨List.mem_cons_self, hkey⟩
      · rcases ih hnodup hg with ⟨hmem, hne⟩ | ⟨old, hold, hsame, heq⟩ | ⟨hnone, heq⟩
        · exact .inl ⟨List.mem_cons_of_mem _ hmem, hne⟩
        · exact .inr (.inl ⟨old, List.mem_cons_of_mem _ hold, hsame, heq⟩)
        · refine .inr (.inr ⟨?_, heq⟩)
          rw [List.map_cons, List.mem_cons, not_or]
          exact ⟨hkey.symm, hnone⟩

/-- Groups of the declarations `ds` by host. -/
structure GroupsByHost (ds : List FieldDecl) (gs : List HostGroup) : Prop where
  mem_iff : ∀ key, key ∈ gs.map HostGroup.hostKey ↔ key ∈ ds.map FieldDecl.hostKey
  /-- No host has two groups, and a host that is declared for earlier comes earlier. -/
  inOrder : (gs.map HostGroup.hostKey).Pairwise fun a b =>
    (ds.map FieldDecl.hostKey).idxOf a < (ds.map FieldDecl.hostKey).idxOf b
  declarations : ∀ g ∈ gs, g.declarations = ds.filter fun d => d.hostKey = g.hostKey
  perm : (gs.flatMap HostGroup.declarations).Perm ds

namespace GroupsByHost

variable {ds : List FieldDecl}

theorem nil : GroupsByHost [] [] := ⟨by simp, List.Pairwise.nil, by simp, List.Perm.refl _⟩

theorem nodup (h : GroupsByHost ds gs) : (gs.map HostGroup.hostKey).Nodup :=
  h.inOrder.imp fun hlt heq => absurd hlt (by rw [heq]; exact Nat.lt_irrefl _)

theorem filter_eq_nil (h : GroupsByHost ds gs) (hnone : d.hostKey ∉ gs.map HostGroup.hostKey) :
    (ds.filter fun e => e.hostKey = d.hostKey) = [] := by
  rw [List.filter_eq_nil_iff]
  intro e he heq
  exact hnone ((h.mem_iff _).mpr (of_decide_eq_true heq ▸ List.mem_map_of_mem he))

theorem inOrder_append (h : GroupsByHost ds gs) (d : FieldDecl) :
    (gs.map HostGroup.hostKey).Pairwise fun a b =>
      ((ds ++ [d]).map FieldDecl.hostKey).idxOf a < ((ds ++ [d]).map FieldDecl.hostKey).idxOf b := by
  refine List.Pairwise.imp_of_mem (fun {a b} ha hb hlt => ?_) h.inOrder
  rw [List.map_append, List.idxOf_append_of_mem ((h.mem_iff a).mp ha), List.idxOf_append_of_mem ((h.mem_iff b).mp hb)]
  exact hlt

theorem addToGroups (h : GroupsByHost ds gs) (d : FieldDecl) :
    GroupsByHost (ds ++ [d]) (HostBinder.addToGroups d gs) := by
  refine ⟨fun key => ?_, ?_, fun g hg => ?_, ?_⟩
  · rw [map_hostKey_addToGroups, List.map_append, List.mem_append, ← h.mem_iff]
    split
    · rename_i hmem
      simp only [List.map_cons, List.map_nil, List.mem_singleton, iff_self_or]
      exact fun heq => heq ▸ hmem
    · exact List.mem_append
  · rw [map_hostKey_addToGroups]
    split
    · exact h.inOrder_append d
    · rename_i hmem
      refine List.pairwise_append.mpr ⟨h.inOrder_append d, List.pairwise_singleton _ _, fun a ha b hb => ?_⟩
      obtain rfl : b = d.hostKey := List.mem_singleton.mp hb
      have ha' := (h.mem_iff a).mp ha
      have hnew : d.hostKey ∉ ds.map FieldDecl.hostKey := fun hold => hmem ((h.mem_iff _).mpr hold)
      rw [List.map_append, List.idxOf_append_of_mem ha', List.idxOf_append_of_notMem hnew]
      exact Nat.lt_of_lt_of_le (List.idxOf_lt_length_iff.mpr ha') (Nat.le_add_right _ _)
  · rw [List.filter_append]
    rcases cases_of_mem_addToGroups h.nodup hg with ⟨hmem, hne⟩ | ⟨old, hold, hsame, rfl⟩ | ⟨hnone, rfl⟩
    · rw [h.declarations g hmem]
      simp [Ne.symm hne]
    · have hkey : ({ old with declarations := old.declarations ++ [d] } : HostGroup).hostKey = d.hostKey := hsame
      rw [hkey, h.declarations old hold, hsame]
      simp
    · have hkey : (⟨d.package, d.host, [d]⟩ : HostGroup).hostKey = d.hostKey := rfl
      rw [hkey, h.filter_eq_nil hnone]
      simp
  · exact (flatMap_declarations_addToGroups d gs).trans (h.perm.append_right _)

theorem groupByHost (ds : List FieldDecl) : GroupsByHost ds (HostBinder.groupByHost ds) := by
  induction ds using List.reverseRecOn with
  | nil => exact nil
  | append_singleton ds d ih =>
    have hlast : HostBinder.groupByHost (ds ++ [d]) = HostBinder.addToGroups d (HostBinder.groupByHost ds) := by
      simp [HostBinder.groupByHost]
    rw [hlast]
    exact ih.addToGroups d

theorem hostKey_of_mem (h : GroupsByHost ds gs) {g : HostGroup} (hg : g ∈ gs) (hd : d ∈ g.declarations) :
    d.hostKey = g.hostKey := by
  rw [h.declarations g hg] at hd
  exact of_decide_eq_true (List.mem_filter.mp hd).2

theorem declarations_ne_nil (h : GroupsByHost ds gs) {g : HostGroup} (hg : g ∈ gs) : g.declarations ≠ [] := by
  obtain ⟨d, hd, hkey⟩ := List.mem_map.mp ((h.mem_iff g.hostKey).mp (List.mem_map_of_mem hg))
  rw [h.declarations g hg]
  exact List.ne_nil_of_mem (List.mem_filter.mpr ⟨hd, decide_eq_true hkey⟩)

theorem existsUnique_group (h : GroupsByHost ds gs) (hd : d ∈ ds) : ∃! g, g ∈ gs ∧ d ∈ g.declarations := by
  obtain ⟨g, hg, hkey⟩ := List.mem_map.mp ((h.mem_iff d.hostKey).mpr (List.mem_map_of_mem hd))
  refine ⟨g, ⟨hg, ?_⟩, fun g' hx => ?_⟩
  · rw [h.declarations g hg]
    exact List.mem_filter.mpr ⟨hd, decide_eq_true hkey.symm⟩
  · have hkey' : g'.hostKey = g.hostKey := (h.hostKey_of_mem hx.1 hx.2).symm.trans hkey.symm
    exact List.inj_on_of_nodup_map h.nodup hx.1 hg hkey'

end GroupsByHost

/-- Declarations are put together by the package and name of their host, whichever way the groups are found. No group
is empty, each declaration is in one group, and declarations of different hosts are in different groups even where the
paths of these hosts are the same text. -/
theorem groupByHost_partitions (ds : List FieldDecl) :
    groupBySlot? ds = some (groupByHost ds) ∧ GroupsByHost ds (groupByHost ds) ∧
      (∀ g ∈ groupByHost ds, g.declarations ≠ []) ∧
      (∀ d ∈ ds, ∃! g, g ∈ groupByHost ds ∧ d ∈ g.declarations) ∧
      ∀ d e, (d.package ≠ e.package ∨ d.host ≠ e.host) → ∀ g ∈ groupByHost ds, d ∈ g.declarations →
        e ∉ g.declarations := by
  have h := GroupsByHost.groupByHost ds
  refine ⟨groupBySlot?_eq_some ds, h, fun g hg => h.declarations_ne_nil hg, fun d hd => h.existsUnique_group hd, ?_⟩
  intro d e hne g hg hd he
  obtain ⟨hpackage, hhost⟩ := Prod.mk.inj ((h.hostKey_of_mem hg hd).trans (h.hostKey_of_mem hg he).symm)
  rcases hne with hne | hne
  · exact hne hpackage
  · exact hne hhost

example : (groupByHost [⟨"a", "b::C", "x", "w::Label", 1⟩, ⟨"a::b", "C", "y", "w::Label", 2⟩]).map
    (fun g => (g.path, g.declarations.map FieldDecl.field)) = [("a::b::C", ["x"]), ("a::b::C", ["y"])] := by
  decide

end HostBinder

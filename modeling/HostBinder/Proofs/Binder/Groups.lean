import HostBinder.Binder.Declaration
import HostBinder.Proofs.Schema.Ancestry

set_option autoImplicit false

namespace HostBinder

def Host.group (h : Host) : HostGroup := ⟨h.name.modulePath, h.name.ident, h.declarations⟩

/-- The hosts that bind at least one field, in path order. -/
def Schema.boundHosts (s : Schema) : List Host :=
  (s.hosts.map (·.2)).filter fun h => !h.bindings.isEmpty

theorem addToGroups_of_not_admits {d : FieldDecl} {gs : List HostGroup}
    (h : ∀ g ∈ gs, g.admits d = false) : addToGroups d gs = gs ++ [⟨d.package, d.host, [d]⟩] := by
  induction gs with
  | nil => rfl
  | cons g gs ih =>
    rw [addToGroups, if_neg (by simp [h g]), ih fun g' hg => h g' (List.mem_cons_of_mem _ hg), List.cons_append]

theorem addToGroups_of_last {d : FieldDecl} {gs : List HostGroup} {g : HostGroup}
    (h : ∀ g ∈ gs, g.admits d = false) (hg : g.admits d = true) :
    addToGroups d (gs ++ [g]) = gs ++ [{ g with declarations := g.declarations ++ [d] }] := by
  induction gs with
  | nil => simp [addToGroups, hg]
  | cons g' gs ih =>
    rw [List.cons_append, addToGroups, if_neg (by simp [h g']),
      ih fun g'' hg => h g'' (List.mem_cons_of_mem _ hg), List.cons_append]

theorem foldl_addToGroups {package host : String} {gs : List HostGroup} {ds before : List FieldDecl}
    (hds : ∀ d ∈ ds, d.package = package ∧ d.host = host)
    (hgs : ∀ g ∈ gs, ¬(g.package = package ∧ g.host = host)) :
    ds.foldl (fun gs d => addToGroups d gs) (gs ++ [⟨package, host, before⟩]) =
      gs ++ [⟨package, host, before ++ ds⟩] := by
  induction ds generalizing before with
  | nil => simp
  | cons d ds ih =>
    obtain ⟨hp, hh⟩ := hds d (by simp)
    have hnot : ∀ g ∈ gs, g.admits d = false := by
      intro g hg
      simpa [HostGroup.admits, hp, hh] using hgs g hg
    rw [List.foldl_cons, addToGroups_of_last hnot (by simp [HostGroup.admits, hp, hh]),
      ih fun d' hd => hds d' (List.mem_cons_of_mem _ hd)]
    simp

theorem Host.foldl_declarations (h : Host) {gs : List HostGroup}
    (hgs : ∀ g ∈ gs, ¬(g.package = h.name.modulePath ∧ g.host = h.name.ident)) :
    h.declarations.foldl (fun gs d => addToGroups d gs) gs =
      gs ++ if h.bindings.isEmpty then [] else [h.group] := by
  have hall : ∀ d ∈ h.declarations, d.package = h.name.modulePath ∧ d.host = h.name.ident := by
    intro d hd
    obtain ⟨b, _, rfl⟩ := List.mem_map.mp hd
    exact ⟨rfl, rfl⟩
  rw [group]
  cases hb : h.declarations with
  | nil =>
    have hempty : h.bindings = [] := List.map_eq_nil_iff.mp hb
    simp [hempty]
  | cons d ds =>
    have hnonempty : h.bindings ≠ [] := by
      intro hn
      simp [declarations, hn] at hb
    rw [hb] at hall
    obtain ⟨hp, hh⟩ := hall d (by simp)
    have hnot : ∀ g ∈ gs, g.admits d = false := by
      intro g hg
      simpa [HostGroup.admits, hp, hh] using hgs g hg
    rw [List.foldl_cons, addToGroups_of_not_admits hnot, hp, hh,
      foldl_addToGroups (fun d' hd => hall d' (List.mem_cons_of_mem _ hd)) hgs]
    simp [hnonempty]

theorem foldl_hosts {hs : List Host} (hd : hs.Pairwise fun a b => a.name ≠ b.name) {gs : List HostGroup}
    (hgs : ∀ g ∈ gs, ∀ h ∈ hs, ¬(g.package = h.name.modulePath ∧ g.host = h.name.ident)) :
    (hs.flatMap Host.declarations).foldl (fun gs d => addToGroups d gs) gs =
      gs ++ (hs.filter fun h => !h.bindings.isEmpty).map Host.group := by
  induction hs generalizing gs with
  | nil => simp
  | cons h hs ih =>
    obtain ⟨hhead, htail⟩ := List.pairwise_cons.mp hd
    rw [List.flatMap_cons, List.foldl_append, h.foldl_declarations fun g hg => hgs g hg h (by simp), ih htail]
    · by_cases hb : h.bindings.isEmpty <;> simp [hb]
    · intro g hg h' hh'
      rcases List.mem_append.mp hg with hg | hg
      · exact hgs g hg h' (List.mem_cons_of_mem _ hh')
      · have hgroup : g = h.group := by
          by_cases hb : h.bindings.isEmpty <;> simp [hb] at hg
          exact hg
        subst hgroup
        intro hx
        obtain ⟨hp, hi⟩ := hx
        apply hhead h' hh'
        cases hn : h.name
        cases hn' : h'.name
        simp_all [Host.group]

namespace Schema

variable {s : Schema}

theorem mem_hosts {path : String} {h : Host} :
    (path, h) ∈ s.hosts ↔ (path, Node.host h) ∈ s.nodes.entries := by
  rw [hosts, List.mem_filterMap]
  constructor
  · intro hx
    obtain ⟨⟨k, n⟩, hn, he⟩ := hx
    cases n with
    | component _ => simp [Node.host?] at he
    | host h' =>
      simp only [Node.host?, Option.map_some, Option.some.injEq, Prod.mk.injEq] at he
      obtain ⟨rfl, rfl⟩ := he
      exact hn
  · intro hn
    exact ⟨_, hn, rfl⟩

theorem hosts_names_differ (s : Schema) : (s.hosts.map (·.2)).Pairwise fun a b => a.name ≠ b.name := by
  have hdiffer : KeysDiffer s.hosts := s.nodes.increasing.differ.filterMap Node.host?
  rw [List.pairwise_map]
  refine List.Pairwise.imp_of_mem (fun {a b} ha hb hab heq => hab ?_) hdiffer
  have hka := s.keyed _ (mem_hosts.mp ha)
  have hkb := s.keyed _ (mem_hosts.mp hb)
  simp only [Node.path, Node.name] at hka hkb
  rw [hka, hkb, heq]

theorem groupByHost_declarations (s : Schema) : groupByHost s.declarations = s.boundHosts.map Host.group := by
  have hflat : s.declarations = (s.hosts.map (·.2)).flatMap Host.declarations := by
    rw [List.flatMap_map]
    rfl
  rw [groupByHost, hflat, foldl_hosts s.hosts_names_differ (by simp), boundHosts, List.nil_append]

end Schema

end HostBinder

import HostBinder.Proofs.Binder.RegistryKeys
import HostBinder.Proofs.Binder.Shares

set_option autoImplicit false

namespace HostBinder

def Diagnostic.isCollision (m : String) : Diagnostic → Bool
  | moduleTaken moduleName _ => moduleName = m
  | _ => false

/-- A module name under which units were made for `first` and perhaps for hosts after it. -/
structure Generation.GivenFirst (g : Generation) (s : Schema) (settings : Settings) (roots : CrateRoots) (m : String)
    (before : List Host) (first : Host) (after : List Host) (u : BinderUnit) : Prop where
  inOrder : s.boundHosts = before ++ first :: after
  made : s.draft? settings roots first = some u
  named : u.moduleName = m
  noneBefore : ∀ h ∈ before, s.drafts settings roots h m = false
  kept : g.units.filter (fun v => v.moduleName = m) = [u]
  reported : g.diagnostics.filter (Diagnostic.isCollision m) =
    (after.filter fun h => s.drafts settings roots h m).map fun h =>
      .moduleTaken m (memberPath h.name.modulePath h.name.ident)
  dropped : ∀ h ∈ after, s.drafts settings roots h m = true →
    ∀ v ∈ g.units, v.hostName ≠ (h.name.modulePath, h.name.ident)

theorem fileName_injective : Function.Injective fun m : String => m ++ ".rs" := by
  intro a b h
  have hchars := congrArg String.toList h
  simp only [String.toList_append, List.append_left_inj] at hchars
  exact String.toList_injective hchars

namespace Schema

variable {s : Schema} {settings : Settings} {roots : CrateRoots} {h : Host} {before after : List Host} {m : String}

theorem host_of_mem_shares {u : BinderUnit} (hu : u ∈ (s.shares settings roots s.boundHosts).units) :
    ∃ h ∈ s.boundHosts, s.kept? settings roots h = some u ∧ u.hostName = (h.name.modulePath, h.name.ident) := by
  obtain ⟨h, hh, hkept⟩ := List.mem_filterMap.mp hu
  obtain ⟨hpackage, hhost⟩ := hostName_of_draft? (kept?_eq_some_iff.mp hkept).1
  exact ⟨h, hh, hkept, Prod.ext hpackage hhost⟩

theorem kept?_of_mem_shares {u : BinderUnit} (hu : u ∈ (s.shares settings roots s.boundHosts).units)
    (hh : h ∈ s.boundHosts) (hname : u.hostName = (h.name.modulePath, h.name.ident)) :
    s.kept? settings roots h = some u := by
  obtain ⟨h', hh', hkept, hname'⟩ := host_of_mem_shares hu
  rw [hname, Prod.mk.injEq] at hname'
  have heq : h.name = h'.name := by
    cases hn : h.name
    cases hn' : h'.name
    simp_all
  rwa [eq_of_name_eq hh hh' heq]

theorem filter_reports :
    (s.reports settings roots h).filter (Diagnostic.isCollision m) =
      if s.displaced settings roots h && s.drafts settings roots h m then
        [.moduleTaken m (memberPath h.name.modulePath h.name.ident)]
      else [] := by
  have hunreached : (h.unreached s settings.baseType).filter (Diagnostic.isCollision m) = [] := by
    rw [List.filter_eq_nil_iff]
    intro d hd
    obtain ⟨b, _, rfl⟩ := List.mem_map.mp hd
    simp [Diagnostic.isCollision]
  have hemission : (s.emission settings roots h).diagnostics.filter (Diagnostic.isCollision m) = [] := by
    rw [List.filter_eq_nil_iff]
    intro d hd
    rcases mem_diagnostics_emission hd with ⟨n, rfl⟩ | rfl | ⟨b, _, rfl⟩ <;> simp [Diagnostic.isCollision]
  rw [reports, List.filter_append, List.filter_append, hunreached, hemission, List.nil_append, List.nil_append]
  cases hu : s.draft? settings roots h with
  | none => simp [collisions, drafts, hu]
  | some u =>
    obtain ⟨hpackage, hhost⟩ := hostName_of_draft? hu
    cases hd : s.displaced settings roots h with
    | false => simp [collisions, hd]
    | true =>
      by_cases hm : u.moduleName = m
      · simp [collisions, hd, hu, drafts, hm, Diagnostic.isCollision, BinderUnit.hostPath, hpackage, hhost]
      · simp [collisions, hd, hu, drafts, hm, Diagnostic.isCollision]

theorem displaced_first {first : Host} (hs : s.boundHosts = before ++ first :: after)
    (hbefore : ∀ h ∈ before, s.drafts settings roots h m = false) {u : BinderUnit}
    (hu : s.draft? settings roots first = some u) (hm : u.moduleName = m) :
    s.displaced settings roots first = false := by
  rw [Bool.eq_false_iff]
  intro hd
  obtain ⟨m', hm', h', hh', hd'⟩ := (displaced_iff hs).mp hd
  obtain ⟨u', hu', rfl⟩ := drafts_iff.mp hm'
  obtain rfl : u = u' := Option.some.inj (hu.symm.trans hu')
  rw [hm, hbefore h' hh'] at hd'
  cases hd'

theorem displaced_later {first : Host} (hs : s.boundHosts = before ++ first :: after)
    (hfirst : s.drafts settings roots first m = true) (hh : h ∈ after) (hd : s.drafts settings roots h m = true) :
    s.displaced settings roots h = true := by
  obtain ⟨front, rest, rfl⟩ := List.append_of_mem hh
  have hs' : s.boundHosts = (before ++ first :: front) ++ h :: rest := by rw [hs]; simp
  exact (displaced_iff hs').mpr ⟨m, hd, first, by simp, hfirst⟩

theorem kept?_later {first : Host} (hs : s.boundHosts = before ++ first :: after)
    (hfirst : s.drafts settings roots first m = true) (hh : h ∈ after) {v : BinderUnit}
    (hv : s.kept? settings roots h = some v) : v.moduleName ≠ m := by
  intro hm
  obtain ⟨hdraft, hd⟩ := kept?_eq_some_iff.mp hv
  rw [displaced_later hs hfirst hh (drafts_iff.mpr ⟨v, hdraft, hm⟩)] at hd
  cases hd

theorem shares_givenFirst (hm : ∃ h ∈ s.boundHosts, s.drafts settings roots h m = true) :
    ∃ before first after u,
      (s.shares settings roots s.boundHosts).GivenFirst s settings roots m before first after u := by
  obtain ⟨before, first, after, hs, hfirst, hbefore⟩ := exists_first_drafts hm
  obtain ⟨u, hu, hname⟩ := drafts_iff.mp hfirst
  have hkept : s.kept? settings roots first = some u := kept?_eq_some_iff.mpr ⟨hu, displaced_first hs hbefore hu hname⟩
  refine ⟨before, first, after, u, hs, hu, hname, hbefore, ?_, ?_, ?_⟩
  · have hfront : (before.filterMap (s.kept? settings roots)).filter (fun v => v.moduleName = m) = [] := by
      rw [List.filter_eq_nil_iff]
      intro v hv
      obtain ⟨h, hh, hk⟩ := List.mem_filterMap.mp hv
      have hno := hbefore h hh
      rw [Bool.eq_false_iff] at hno
      simpa using fun hm' => hno (drafts_iff.mpr ⟨v, (kept?_eq_some_iff.mp hk).1, hm'⟩)
    have hrest : (after.filterMap (s.kept? settings roots)).filter (fun v => v.moduleName = m) = [] := by
      rw [List.filter_eq_nil_iff]
      intro v hv
      obtain ⟨h, hh, hk⟩ := List.mem_filterMap.mp hv
      simpa using kept?_later hs hfirst hh hk
    rw [units_shares, hs, List.filterMap_append, List.filterMap_cons_some hkept, List.filter_append, hfront,
      List.filter_cons_of_pos (by simpa using hname), hrest, List.nil_append]
  · have hfront : (before.flatMap fun h => (s.reports settings roots h).filter (Diagnostic.isCollision m)) = [] := by
      rw [List.flatMap_eq_nil_iff]
      intro h hh
      simp [filter_reports, hbefore h hh]
    have hrest : (after.flatMap fun h => (s.reports settings roots h).filter (Diagnostic.isCollision m)) =
        after.flatMap fun h => if s.drafts settings roots h m then
          [.moduleTaken m (memberPath h.name.modulePath h.name.ident)] else [] := by
      apply List.flatMap_congr
      intro h hh
      rw [filter_reports]
      cases hd : s.drafts settings roots h m with
      | false => simp
      | true => simp [displaced_later hs hfirst hh hd]
    rw [diagnostics_shares, List.filter_flatMap, hs, List.flatMap_append, List.flatMap_cons, hfront, hrest,
      filter_reports, displaced_first hs hbefore hu hname, flatMap_ite_singleton]
    simp
  · intro h hh hd v hv hname'
    have hmem : h ∈ s.boundHosts := by rw [hs]; simp [hh]
    have hnone := (kept?_eq_some_iff.mp (kept?_of_mem_shares hv hmem hname')).2
    rw [displaced_later hs hfirst hh hd] at hnone
    cases hnone

theorem nodup_moduleNames_shares : ((s.shares settings roots s.boundHosts).units.map BinderUnit.moduleName).Nodup := by
  rw [List.nodup_iff_count_le_one]
  intro m
  have hcount : List.count m ((s.shares settings roots s.boundHosts).units.map BinderUnit.moduleName) =
      ((s.shares settings roots s.boundHosts).units.filter fun v => v.moduleName = m).length := by
    rw [List.count, List.countP_map, List.countP_eq_length_filter]
    congr 1
  rw [hcount]
  by_cases hm : ∃ h ∈ s.boundHosts, s.drafts settings roots h m = true
  · obtain ⟨_, _, _, u, hgiven⟩ := shares_givenFirst hm
    rw [hgiven.kept, List.length_singleton]
  · have hnone : ((s.shares settings roots s.boundHosts).units.filter fun v => v.moduleName = m) = [] := by
      rw [List.filter_eq_nil_iff]
      intro v hv
      obtain ⟨h, hh, hk, _⟩ := host_of_mem_shares hv
      simpa using fun hm' => hm ⟨h, hh, drafts_iff.mpr ⟨v, (kept?_eq_some_iff.mp hk).1, hm'⟩⟩
    rw [hnone, List.length_nil]
    exact Nat.zero_le 1

end Schema

/-- Units of a pass have module names of their own, and so files of their own. A module name under which units
were made is that of one unit, made for the first of their hosts; the other hosts are reported, each once, and
have no unit. A pass without a result has met a field whose name makes a malformed identifier. -/
theorem generate_moduleNames (s : Schema) (settings : Settings) (roots : CrateRoots) :
    match generate s settings roots with
    | .ok g =>
      (g.units.map BinderUnit.moduleName).Nodup ∧ (g.units.map BinderUnit.fileName).Nodup ∧
        (∀ h ∈ s.boundHosts, h.group.emit (s.conforming settings.baseType) settings.invalidFields roots =
          .ok (s.emission settings roots h)) ∧
        ∀ m, (∃ h ∈ s.boundHosts, s.drafts settings roots h m = true) →
          ∃ before first after u, g.GivenFirst s settings roots m before first after u
    | .error err => s.StoppedBy settings err := by
  cases hg : generate s settings roots with
  | error err => exact Schema.stoppedBy_of_generate hg
  | ok g =>
    obtain rfl := eq_shares_of_generate hg
    have hnodup : ((s.shares settings roots s.boundHosts).units.map BinderUnit.moduleName).Nodup :=
      Schema.nodup_moduleNames_shares
    refine ⟨hnodup, ?_, fun h hh => emit_of_generate hg hh, fun m => Schema.shares_givenFirst⟩
    have hfiles := hnodup.map fileName_injective
    rwa [List.map_map] at hfiles

end HostBinder

import HostBinder.Proofs.Binder.Policies
import HostBinder.Proofs.Schema.Registration

set_option autoImplicit false

/-!
Hosts are generated for independently. A host that is new to a schema adds its own unit and its own reports to a
pass, at the place of its path, and changes nothing else, unless its unit has the module name of another: it extends
nothing, so all types conform as before, and only module names are shared between hosts.
-/

namespace HostBinder

open Code

def Diagnostic.host? : Diagnostic → Option String
  | nonconforming _ host _ _ => some host
  | aborted host _ => some host
  | unnameable host => some host
  | unassignable _ host => some host
  | moduleTaken _ host => some host
  | unitNotWritten host _ _ => some host
  | indexNotWritten _ _ => none
  | remark _ _ => none

namespace Generation

instance : Append Generation :=
  ⟨fun g g' => ⟨g.units ++ g'.units, g.diagnostics ++ g'.diagnostics, g.events ++ g'.events⟩⟩

@[simp] theorem units_append (g g' : Generation) : (g ++ g').units = g.units ++ g'.units := rfl

@[simp] theorem diagnostics_append (g g' : Generation) : (g ++ g').diagnostics = g.diagnostics ++ g'.diagnostics := rfl

@[simp] theorem events_append (g g' : Generation) : (g ++ g').events = g.events ++ g'.events := rfl

structure Concerns (g : Generation) (hs : List Host) : Prop where
  units : ∀ u ∈ g.units, ∃ h ∈ hs, u.hostName = (h.name.modulePath, h.name.ident)
  diagnostics : ∀ d ∈ g.diagnostics, ∃ h ∈ hs, d.host? = some (memberPath h.name.modulePath h.name.ident)

theorem Concerns.mono {g : Generation} {hs hs' : List Host} (h : g.Concerns hs) (hsub : hs ⊆ hs') : g.Concerns hs' where
  units u hu := (h.units u hu).imp fun _ hx => ⟨hsub hx.1, hx.2⟩
  diagnostics d hd := (h.diagnostics d hd).imp fun _ hx => ⟨hsub hx.1, hx.2⟩

/-- A pass in three parts: what it has for the hosts of a schema before a new host, for that host, and for the hosts
behind it, in the order of paths. -/
structure Inserts (before own after : Generation) (s : Schema) (base : String) (h : Host) (e : Emission) : Prop where
  unit : own.units = e.unit.toList
  diagnostics : own.diagnostics = h.unreached s base ++ e.diagnostics
  concerns : own.Concerns [h]
  others : ∃ earlier later, s.boundHosts = earlier ++ later ∧
    (∀ h' ∈ earlier, h'.name.path < h.name.path) ∧ (∀ h' ∈ later, h.name.path < h'.name.path) ∧
    before.Concerns earlier ∧ after.Concerns later

end Generation

def Host.ifBound (h : Host) : List Host := if h.bindings.isEmpty then [] else [h]

theorem Host.ifBound_subset (h : Host) : h.ifBound ⊆ [h] := by
  unfold ifBound
  split <;> simp

def Node.boundHost? : Node → Option Host
  | .component _ => none
  | .host h => if h.bindings.isEmpty then none else some h

namespace Schema

def offer (s : Schema) (settings : Settings) (roots : CrateRoots) (h : Host) : Except MalformedIdent Emission :=
  if h.bindings.isEmpty then .ok ⟨none, []⟩
  else h.group.emit (s.conforming settings.baseType) settings.invalidFields roots

variable {s : Schema} {settings : Settings} {roots : CrateRoots} {h h' : Host} {before after hs : List Host}
  {e : Emission}

theorem shares_append (hs hs' : List Host) :
    s.shares settings roots (hs ++ hs') = s.shares settings roots hs ++ s.shares settings roots hs' := by
  apply Generation.ext <;> simp

theorem shares_concerns (hs : List Host) : (s.shares settings roots hs).Concerns hs where
  units := by
    intro u hu
    obtain ⟨h, hh, hkept⟩ := List.mem_filterMap.mp hu
    obtain ⟨hpackage, hhost⟩ := hostName_of_draft? (kept?_eq_some_iff.mp hkept).1
    exact ⟨h, hh, Prod.ext hpackage hhost⟩
  diagnostics := by
    intro d hd
    obtain ⟨h, hh, hd⟩ := List.mem_flatMap.mp hd
    refine ⟨h, hh, ?_⟩
    rw [reports, List.mem_append, List.mem_append] at hd
    rcases hd with (hd | hd) | hd
    · obtain ⟨b, _, rfl⟩ := List.mem_map.mp hd
      rfl
    · rcases mem_diagnostics_emission hd with ⟨n, rfl⟩ | rfl | ⟨b, _, rfl⟩ <;> rfl
    · unfold collisions at hd
      split at hd
      · obtain ⟨u, hu, rfl⟩ := List.mem_map.mp hd
        obtain ⟨hpackage, hhost⟩ := hostName_of_draft? (Option.mem_toList.mp hu)
        rw [Diagnostic.host?, BinderUnit.hostPath, hpackage, hhost]
      · cases hd

theorem offer_cases (he : s.offer settings roots h = .ok e) :
    (h.bindings.isEmpty = true ∧ e = ⟨none, []⟩) ∨
    (h.bindings.isEmpty = false ∧ h.group.emit (s.conforming settings.baseType) settings.invalidFields roots = .ok e ∧
      s.emission settings roots h = e) := by
  rw [offer] at he
  cases hb : h.bindings.isEmpty with
  | true =>
    rw [if_pos hb] at he
    exact .inl ⟨rfl, (Except.ok.inj he).symm⟩
  | false =>
    rw [if_neg (by simp [hb])] at he
    exact .inr ⟨rfl, he, emission_eq_of_emitted (HostGroup.emit_eq_ok_iff.mp he)⟩

theorem exists_emit_of_offer (he : s.offer settings roots h = .ok e) :
    ∀ x ∈ h.ifBound, ∃ e, x.group.emit (s.conforming settings.baseType) settings.invalidFields roots = .ok e := by
  rcases offer_cases he with ⟨hb, _⟩ | ⟨hb, hemit, _⟩
  · simp [Host.ifBound, hb]
  · simpa [Host.ifBound, hb] using ⟨e, hemit⟩

theorem boundHosts_eq_filterMap (s : Schema) : s.boundHosts = s.nodes.entries.filterMap fun e => e.2.boundHost? := by
  rw [boundHosts, hosts, List.map_filterMap, ← List.filterMap_eq_filter, List.filterMap_filterMap]
  apply List.filterMap_congr
  intro e _
  cases e.2 with
  | component c => rfl
  | host h => cases hb : h.bindings.isEmpty <;> simp [Node.host?, Node.boundHost?, hb]

theorem key_of_boundHost? {e : String × Node} (he : e ∈ s.nodes.entries) (hhost : e.2.boundHost? = some h) :
    e.1 = h.name.path := by
  rw [s.keyed e he]
  cases hn : e.2 with
  | component c => simp [hn, Node.boundHost?] at hhost
  | host h' =>
    obtain ⟨_, rfl⟩ : h'.bindings ≠ [] ∧ h' = h := by simpa [hn, Node.boundHost?] using hhost
    rfl

section Types

variable (hnew : s.get? h.name.path = none)

include hnew

theorem hierarchy_insert_host : (s.insert (.host h)).hierarchy = s.hierarchy := by
  obtain ⟨before, after, hs, hinsert, _⟩ := entries_insert (n := .host h) hnew
  have hcomponents : (s.insert (.host h)).components = s.components := by
    rw [components, components, hinsert, hs]
    simp [Node.component?]
  rw [hierarchy, hcomponents]
  rfl

theorem conforming_insert_host (base : String) : (s.insert (.host h)).conforming base = s.conforming base := by
  funext d
  rw [conforming, hierarchy_insert_host hnew]
  rfl

theorem unreached_insert_host (base : String) : h'.unreached (s.insert (.host h)) base = h'.unreached s base := by
  rw [← Host.nonconforming_group, ← Host.nonconforming_group, conforming_insert_host hnew]

theorem emission_insert_host :
    (s.insert (.host h)).emission settings roots h' = s.emission settings roots h' := by
  unfold emission
  rw [conforming_insert_host hnew]

theorem draft?_insert_host : (s.insert (.host h)).draft? settings roots h' = s.draft? settings roots h' := by
  rw [draft?, emission_insert_host hnew, draft?]

theorem drafts_insert_host (m : String) :
    (s.insert (.host h)).drafts settings roots h' m = s.drafts settings roots h' m := by
  rw [drafts, draft?_insert_host hnew, drafts]

theorem boundHosts_insert_host :
    ∃ before after, s.boundHosts = before ++ after ∧
      (s.insert (.host h)).boundHosts = before ++ h.ifBound ++ after ∧
      (∀ h' ∈ before, h'.name.path < h.name.path) ∧ ∀ h' ∈ after, h.name.path < h'.name.path := by
  obtain ⟨before, after, hs, hinsert, hbefore, hafter⟩ := entries_insert (n := .host h) hnew
  refine ⟨before.filterMap fun e => e.2.boundHost?, after.filterMap fun e => e.2.boundHost?, ?_, ?_, ?_, ?_⟩
  · rw [boundHosts_eq_filterMap, hs, List.filterMap_append]
  · rw [boundHosts_eq_filterMap, hinsert, List.filterMap_append, List.append_assoc]
    have hown : (Node.host h).boundHost? = if h.bindings.isEmpty then none else some h := rfl
    cases hb : h.bindings.isEmpty <;> simp [Host.ifBound, hown, hb]
  · intro h' hh'
    obtain ⟨e, he, hhost⟩ := List.mem_filterMap.mp hh'
    rw [← key_of_boundHost? (hs ▸ List.mem_append_left after he) hhost]
    exact hbefore e he
  · intro h' hh'
    obtain ⟨e, he, hhost⟩ := List.mem_filterMap.mp hh'
    rw [← key_of_boundHost? (hs ▸ List.mem_append_right before he) hhost]
    exact hafter e he

end Types

section Shares

variable (hnew : s.get? h.name.path = none) (hhosts : s.boundHosts = before ++ after)
  (hinserted : (s.insert (.host h)).boundHosts = before ++ h.ifBound ++ after)
  (hfree : ∀ x ∈ h.ifBound, ∀ m, s.drafts settings roots x m = true →
    ∀ h' ∈ s.boundHosts, s.drafts settings roots h' m = false)

include hnew hhosts hinserted hfree

theorem displaced_insert_host_of_mem (hh' : h' ∈ s.boundHosts) :
    (s.insert (.host h)).displaced settings roots h' = s.displaced settings roots h' := by
  have hmem := hh'
  rw [hhosts] at hmem
  rw [Bool.eq_iff_iff]
  rcases List.mem_append.mp hmem with hbefore | hafter
  · obtain ⟨front, rest, rfl⟩ := List.append_of_mem hbefore
    have hs : s.boundHosts = front ++ h' :: (rest ++ after) := by rw [hhosts]; simp
    have hs' : (s.insert (.host h)).boundHosts = front ++ h' :: (rest ++ h.ifBound ++ after) := by rw [hinserted]; simp
    rw [displaced_iff hs, displaced_iff hs']
    simp only [drafts_insert_host hnew]
  · obtain ⟨front, rest, rfl⟩ := List.append_of_mem hafter
    have hs : s.boundHosts = (before ++ front) ++ h' :: rest := by rw [hhosts]; simp
    have hs' : (s.insert (.host h)).boundHosts = (before ++ h.ifBound ++ front) ++ h' :: rest := by rw [hinserted]; simp
    rw [displaced_iff hs, displaced_iff hs']
    simp only [drafts_insert_host hnew]
    constructor
    · intro hx
      obtain ⟨m, hm, x, hx, hxm⟩ := hx
      refine ⟨m, hm, x, ?_, hxm⟩
      have hnotOwn : x ∉ h.ifBound := by
        intro hown
        rw [hfree x hown m hxm h' hh'] at hm
        cases hm
      simpa [hnotOwn] using hx
    · intro hx
      obtain ⟨m, hm, x, hx, hxm⟩ := hx
      exact ⟨m, hm, x, by rcases List.mem_append.mp hx with hx | hx <;> simp [hx], hxm⟩

theorem displaced_insert_host_self (hb : h.bindings.isEmpty = false) :
    (s.insert (.host h)).displaced settings roots h = false := by
  have hown : h.ifBound = [h] := by simp [Host.ifBound, hb]
  have hs' : (s.insert (.host h)).boundHosts = before ++ h :: after := by rw [hinserted, hown]; simp
  rw [Bool.eq_false_iff]
  intro hd
  obtain ⟨m, hm, x, hx, hxm⟩ := (displaced_iff hs').mp hd
  rw [drafts_insert_host hnew] at hm hxm
  rw [hfree h (by simp [hown]) m hm x (by rw [hhosts]; simp [hx])] at hxm
  cases hxm

theorem kept?_insert_host (hh' : h' ∈ s.boundHosts) :
    (s.insert (.host h)).kept? settings roots h' = s.kept? settings roots h' := by
  rw [kept?, displaced_insert_host_of_mem hnew hhosts hinserted hfree hh', draft?_insert_host hnew, kept?]

theorem reports_insert_host (hh' : h' ∈ s.boundHosts) :
    (s.insert (.host h)).reports settings roots h' = s.reports settings roots h' := by
  rw [reports, collisions, displaced_insert_host_of_mem hnew hhosts hinserted hfree hh', draft?_insert_host hnew,
    unreached_insert_host hnew, emission_insert_host hnew, reports, collisions]

theorem shares_insert_host (hsub : hs ⊆ s.boundHosts) :
    (s.insert (.host h)).shares settings roots hs = s.shares settings roots hs := by
  have hkept : ∀ h' ∈ hs, (s.insert (.host h)).kept? settings roots h' = s.kept? settings roots h' :=
    fun h' hh' => kept?_insert_host hnew hhosts hinserted hfree (hsub hh')
  have hreports : ∀ h' ∈ hs, (s.insert (.host h)).reports settings roots h' = s.reports settings roots h' :=
    fun h' hh' => reports_insert_host hnew hhosts hinserted hfree (hsub hh')
  apply Generation.ext
  · exact List.filterMap_congr hkept
  · exact List.flatMap_congr hreports
  · refine List.flatMap_congr fun h' hh' => ?_
    rw [events, hkept h' hh', hreports h' hh', events]

theorem shares_insert_host_self (he : s.offer settings roots h = .ok e) :
    ((s.insert (.host h)).shares settings roots h.ifBound).units = e.unit.toList ∧
      ((s.insert (.host h)).shares settings roots h.ifBound).diagnostics =
        h.unreached s settings.baseType ++ e.diagnostics := by
  rcases offer_cases he with ⟨hb, rfl⟩ | ⟨hb, _, hemission⟩
  · simp [Host.ifBound, hb, h.unreached_of_not_bound hb]
  · have hd := displaced_insert_host_self hnew hhosts hinserted hfree hb
    have hdraft : s.draft? settings roots h = e.unit := congrArg Emission.unit hemission
    constructor
    · cases hu : e.unit <;> simp [Host.ifBound, hb, kept?, hd, draft?_insert_host hnew, hdraft, hu]
    · simp [Host.ifBound, hb, reports, collisions, hd, unreached_insert_host hnew, emission_insert_host hnew, hemission]

end Shares

end Schema

namespace Generation

variable {conforms : FieldDecl → Bool} {settings : Settings} {roots : CrateRoots} {before own after : List HostGroup}
  {g : Generation} {err : MalformedIdent}

theorem foldlM_addHost_eq_error {hs : List HostGroup} (g' : Generation)
    (h : hs.foldlM (addHost conforms settings roots) g = .error err) :
    hs.foldlM (addHost conforms settings roots) g' = .error err := by
  induction hs generalizing g g' with
  | nil => cases h
  | cons group hs ih =>
    rw [List.foldlM_cons, addHost_eq_bind] at h ⊢
    cases he : group.emit conforms settings.invalidFields roots with
    | error err' =>
      rw [he] at h
      exact h
    | ok e =>
      rw [he] at h
      exact ih _ h

theorem foldlM_addHost_insert_eq_error
    (hown : ∀ group ∈ own, ∃ e, group.emit conforms settings.invalidFields roots = .ok e)
    (h : (before ++ after).foldlM (addHost conforms settings roots) g = .error err) :
    (before ++ own ++ after).foldlM (addHost conforms settings roots) g = .error err := by
  rw [List.foldlM_append, Attempt.bind_eq_error_iff] at h
  rw [List.append_assoc, List.foldlM_append, Attempt.bind_eq_error_iff]
  refine h.imp_right fun hx => ?_
  obtain ⟨g₁, hbefore, hafter⟩ := hx
  obtain ⟨g₂, hpass⟩ : ∃ g₂, Pass conforms settings roots g₁ own g₂ := by
    simpa only [exists_pass_iff, HostGroup.emit_eq_ok_iff] using hown
  refine ⟨g₁, hbefore, ?_⟩
  rw [List.foldlM_append, foldlM_eq_ok_iff.mpr hpass]
  exact foldlM_addHost_eq_error g₂ hafter

end Generation

theorem generate_eq_foldlM (s : Schema) (settings : Settings) (roots : CrateRoots) :
    generate s settings roots =
      (s.boundHosts.map Host.group).foldlM (Generation.addHost (s.conforming settings.baseType) settings roots)
        .empty := by
  rw [generate, s.groupByHost_declarations]
  rfl

section Insertion

variable {s : Schema} {settings : Settings} {roots : CrateRoots} {h : Host} {e : Emission} {g : Generation}
  {before after : List Host}

/-- A module name that no unit of a pass has is that of no unit made on the way. -/
theorem drafts_eq_false (hg : generate s settings roots = .ok g) {m : String}
    (hfree : ∀ v ∈ g.units, v.moduleName ≠ m) : ∀ h' ∈ s.boundHosts, s.drafts settings roots h' m = false := by
  have hany : ((s.boundHosts.filterMap (s.kept? settings roots)).any fun v => v.moduleName = m) =
      s.boundHosts.any fun h' => s.drafts settings roots h' m :=
    Schema.any_kept_eq (List.append_nil s.boundHosts).symm
  have hnone : (g.units.any fun v => v.moduleName = m) = false := by simpa using hfree
  rw [eq_shares_of_generate hg, Schema.units_shares, hany] at hnone
  simpa using hnone

theorem drafts_eq_false_of_offer (he : s.offer settings roots h = .ok e) (hg : generate s settings roots = .ok g)
    (hfree : ∀ u, e.unit = some u → ∀ v ∈ g.units, v.moduleName ≠ u.moduleName) :
    ∀ x ∈ h.ifBound, ∀ m, s.drafts settings roots x m = true →
      ∀ h' ∈ s.boundHosts, s.drafts settings roots h' m = false := by
  intro x hx m hm
  rcases Schema.offer_cases he with ⟨hb, _⟩ | ⟨hb, _, hemission⟩
  · simp [Host.ifBound, hb] at hx
  · obtain rfl : x = h := List.mem_singleton.mp (h.ifBound_subset hx)
    obtain ⟨u, hu, rfl⟩ := Schema.drafts_iff.mp hm
    rw [Schema.draft?, hemission] at hu
    exact drafts_eq_false hg (hfree u hu)

section Hosts

variable (hnew : s.get? h.name.path = none) (hhosts : s.boundHosts = before ++ after)
  (hinserted : (s.insert (.host h)).boundHosts = before ++ h.ifBound ++ after)
  (he : s.offer settings roots h = .ok e)

include hnew hhosts hinserted he

theorem generate_insert_host_eq_error {err : MalformedIdent} (hg : generate s settings roots = .error err) :
    generate (s.insert (.host h)) settings roots = .error err := by
  rw [generate_eq_foldlM, hhosts, List.map_append] at hg
  rw [generate_eq_foldlM, hinserted, List.map_append, List.map_append, Schema.conforming_insert_host hnew]
  refine Generation.foldlM_addHost_insert_eq_error ?_ hg
  intro group hgroup
  obtain ⟨x, hx, rfl⟩ := List.mem_map.mp hgroup
  exact Schema.exists_emit_of_offer he x hx

theorem exists_generate_insert_host (hg : generate s settings roots = .ok g) :
    ∃ g', generate (s.insert (.host h)) settings roots = .ok g' := by
  have hothers := exists_generate_iff.mp ⟨g, hg⟩
  rw [exists_generate_iff, hinserted, Schema.conforming_insert_host hnew]
  intro x hx
  rw [List.append_assoc, List.mem_append, List.mem_append] at hx
  rcases hx with hx | hx | hx
  · exact hothers x (by simp [hhosts, hx])
  · exact Schema.exists_emit_of_offer he x hx
  · exact hothers x (by simp [hhosts, hx])

end Hosts

/-- A host new to a schema goes into a pass without a trace on other hosts, if its unit has a module name that no
unit of the pass has or if it has no unit at all: all units and reports stay, in their order, the unit of the host
comes in at the place of its path, and the reports on it stand together. -/
theorem generate_insert_host (hnew : s.get? h.name.path = none) (he : s.offer settings roots h = .ok e)
    (hfree : ∀ u, e.unit = some u → ∀ g, generate s settings roots = .ok g →
      ∀ v ∈ g.units, v.moduleName ≠ u.moduleName) :
    match generate s settings roots with
    | .ok g => ∃ before own after, g = before ++ after ∧
        generate (s.insert (.host h)) settings roots = .ok (before ++ own ++ after) ∧
        Generation.Inserts before own after s settings.baseType h e
    | .error err => generate (s.insert (.host h)) settings roots = .error err := by
  obtain ⟨earlier, later, hhosts, hinserted, hearlier, hlater⟩ := Schema.boundHosts_insert_host hnew
  cases hg : generate s settings roots with
  | error err => exact generate_insert_host_eq_error hnew hhosts hinserted he hg
  | ok g =>
    have hfresh := drafts_eq_false_of_offer he hg fun u hu => hfree u hu g hg
    obtain ⟨g', hg'⟩ := exists_generate_insert_host hnew hhosts hinserted he hg
    have hshares : ∀ hs ⊆ s.boundHosts,
        (s.insert (.host h)).shares settings roots hs = s.shares settings roots hs :=
      fun _ hsub => Schema.shares_insert_host hnew hhosts hinserted hfresh hsub
    obtain ⟨hunits, hdiagnostics⟩ := Schema.shares_insert_host_self hnew hhosts hinserted hfresh he
    refine ⟨s.shares settings roots earlier, (s.insert (.host h)).shares settings roots h.ifBound,
      s.shares settings roots later, ?_, ?_, hunits, hdiagnostics, ?_, ?_⟩
    · rw [eq_shares_of_generate hg, hhosts, Schema.shares_append]
    · rw [hg', eq_shares_of_generate hg', hinserted, Schema.shares_append, Schema.shares_append,
        hshares earlier (by simp [hhosts]), hshares later (by simp [hhosts])]
    · exact (Schema.shares_concerns h.ifBound).mono h.ifBound_subset
    · exact ⟨earlier, later, hhosts, hearlier, hlater, Schema.shares_concerns earlier, Schema.shares_concerns later⟩

theorem generate_insert_second_screen :
    let s := labelScreen "app" [⟨"title", "w::Label", 1⟩]
    let h : Host := ⟨⟨"app", "About"⟩, [⟨"caption", "w::Label", 2⟩]⟩
    s.get? h.name.path = none ∧ ∃ e, s.offer .default (.resolve .none) h = .ok e ∧
      e.unit.map BinderUnit.moduleName = some "app_about_view_binder" ∧
      (∀ u, e.unit = some u → ∀ g, generate s .default (.resolve .none) = .ok g →
        ∀ v ∈ g.units, v.moduleName ≠ u.moduleName) ∧
      match generate s .default (.resolve .none) with
      | .ok g => ∃ before own after, g = before ++ after ∧
          generate (s.insert (.host h)) .default (.resolve .none) = .ok (before ++ own ++ after) ∧
          Generation.Inserts before own after s Settings.default.baseType h e
      | .error err => generate (s.insert (.host h)) .default (.resolve .none) = .error err := by
  intro s h
  have hnew : s.get? h.name.path = none := by decide +kernel
  have hunit : (s.offer .default (.resolve .none) h).map (fun e => e.unit.map BinderUnit.moduleName) =
      .ok (some "app_about_view_binder") := by
    decide +kernel
  have hunits : (generate s .default (.resolve .none)).map (fun g => g.units.map BinderUnit.moduleName) =
      .ok ["app_main_view_binder"] := by
    decide +kernel
  cases he : s.offer .default (.resolve .none) h with
  | error err =>
    rw [he] at hunit
    cases hunit
  | ok e =>
    rw [he] at hunit
    have hname : e.unit.map BinderUnit.moduleName = some "app_about_view_binder" := Except.ok.inj hunit
    have hfree : ∀ u, e.unit = some u → ∀ g, generate s .default (.resolve .none) = .ok g →
        ∀ v ∈ g.units, v.moduleName ≠ u.moduleName := by
      intro u hu g hg v hv
      rw [hg] at hunits
      have hmodules : g.units.map BinderUnit.moduleName = ["app_main_view_binder"] := Except.ok.inj hunits
      have hmain : v.moduleName = "app_main_view_binder" :=
        List.mem_singleton.mp (hmodules ▸ List.mem_map_of_mem hv)
      have habout : u.moduleName = "app_about_view_binder" := by simpa [hu] using hname
      rw [hmain, habout]
      decide
    exact ⟨hnew, e, rfl, hname, hfree, generate_insert_host hnew he hfree⟩

end Insertion

end HostBinder

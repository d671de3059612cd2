import HostBinder.Proofs.Binder.Pass

set_option autoImplicit false

namespace HostBinder

def Diagnostic.isNonconforming : Diagnostic → Bool
  | nonconforming .. => true
  | _ => false

def Host.unreached (h : Host) (s : Schema) (base : String) : List Diagnostic :=
  (h.bindings.filter fun b => ¬s.Reaches b.type base).map fun b =>
    .nonconforming b.field (memberPath h.name.modulePath h.name.ident) b.type base

/-- An assignment made for a binding as the policy on invalid fields has it. -/
structure BinderUnit.Follows (u : BinderUnit) (s : Schema) (settings : Settings)
    (a : Assignment) (b : Binding) : Prop where
  field : a.field = b.field
  id : a.id = b.id
  reaches : settings.invalidFields ≠ .emit → s.Reaches b.type settings.baseType
  qualified_iff : (∃ path, a.type = .qualified path) ↔ ¬s.Reaches b.type settings.baseType
  path : ∀ path, a.type = .qualified path → path = b.type ∧ u.imports.contains path = false

variable {s : Schema} {settings : Settings} {roots : CrateRoots} {conforms : FieldDecl → Bool}

theorem Host.nonconforming_group (h : Host) (s : Schema) (base : String) :
    Generation.nonconforming (s.conforming base) base h.group = h.unreached s base := by
  rw [Generation.nonconforming, group, declarations, List.filter_map, List.map_map, unreached]
  congr 1
  apply List.filter_congr
  intro b _
  rw [Function.comp_apply, Bool.eq_iff_iff]
  simp [← Schema.conforming_iff (d := ⟨h.name.modulePath, h.name.ident, b.field, b.type, b.id⟩)]

theorem Host.countP_nonconforming (h : Host) (s : Schema) (base : String) :
    (h.group.declarations.countP fun d => !s.conforming base d) =
      h.bindings.countP fun b => ¬s.Reaches b.type base := by
  unfold group declarations
  rw [List.countP_map]
  apply List.countP_congr
  intro b _
  simp [← Schema.conforming_iff (d := ⟨h.name.modulePath, h.name.ident, b.field, b.type, b.id⟩)]

theorem Host.unreached_of_not_bound (h : Host) (hb : h.bindings.isEmpty = true) (s : Schema) (base : String) :
    h.unreached s base = [] := by
  rw [unreached, List.isEmpty_iff.mp hb]
  rfl

theorem flatMap_unreached_filter (hs : List Host) (s : Schema) (base : String) :
    ((hs.filter fun h => !h.bindings.isEmpty).flatMap fun h => h.unreached s base) =
      hs.flatMap fun h => h.unreached s base := by
  induction hs with
  | nil => rfl
  | cons h hs ih =>
    cases hb : h.bindings.isEmpty with
    | true => simp [hb, ih, h.unreached_of_not_bound hb]
    | false => simp [hb, ih]

theorem HostGroup.Emitted.filter_isNonconforming {g : HostGroup} {policy : InvalidFieldPolicy} {e : Emission}
    (he : g.Emitted conforms policy roots e) : e.diagnostics.filter Diagnostic.isNonconforming = [] := by
  rw [List.filter_eq_nil_iff]
  intro r hr
  cases he with
  | aborted =>
    obtain rfl := List.mem_singleton.mp hr
    simp [Diagnostic.isNonconforming]
  | unnameable =>
    obtain rfl := List.mem_singleton.mp hr
    simp [Diagnostic.isNonconforming]
  | made _ _ htreated =>
    obtain ⟨d, _, rfl⟩ := exists_unassignable_of_mem_refusalsOf htreated hr
    simp [Diagnostic.isNonconforming]

namespace Generation

variable {g g' : Generation} {hs : List HostGroup}

theorem filter_nonconforming (base : String) (h : HostGroup) :
    (nonconforming conforms base h).filter Diagnostic.isNonconforming = nonconforming conforms base h := by
  rw [List.filter_eq_self]
  intro r hr
  obtain ⟨d, _, rfl⟩ := List.mem_map.mp hr
  rfl

theorem filter_collisions (g : Generation) (e : Emission) :
    (g.collisions e).filter Diagnostic.isNonconforming = [] := by
  rw [List.filter_eq_nil_iff]
  intro r hr
  obtain ⟨u, _, rfl⟩ := List.mem_map.mp hr
  simp [Diagnostic.isNonconforming]

theorem Pass.filter_isNonconforming (hp : Pass conforms settings roots g hs g') :
    g'.diagnostics.filter Diagnostic.isNonconforming =
      g.diagnostics.filter Diagnostic.isNonconforming ++
        hs.flatMap (nonconforming conforms settings.baseType) := by
  induction hp with
  | done => simp
  | host hemitted _ ih =>
    rw [ih, diagnostics_absorb]
    simp [hemitted.filter_isNonconforming, filter_nonconforming, filter_collisions]

end Generation

theorem BinderUnit.follows_of_typeRef? {u : BinderUnit} {ref : TypeRef} {b : Binding}
    (hlocal : (u.imports.local? b.type).isSome = true ↔ s.Reaches b.type settings.baseType)
    (href : typeRef? u.imports settings.invalidFields b.type = some ref) :
    u.Follows s settings ⟨b.field, ref, b.id⟩ b := by
  cases ref with
  | imported name =>
    have hsome : (u.imports.local? b.type).isSome = true := by
      simp [typeRef?_eq_imported_iff.mp href]
    have hreaches := hlocal.mp hsome
    exact ⟨rfl, rfl, fun _ => hreaches, by simp [hreaches], by simp⟩
  | qualified path =>
    obtain ⟨hnone, hemit, rfl⟩ := typeRef?_eq_qualified_iff.mp href
    have hnot : ¬s.Reaches b.type settings.baseType := by
      rw [← hlocal, hnone]
      simp
    refine ⟨rfl, rfl, absurd hemit, by simp [hnot], ?_⟩
    intro path hpath
    obtain rfl : b.type = path := TypeRef.qualified.inj hpath
    rw [ImportTable.local?, Option.map_eq_none_iff] at hnone
    exact ⟨rfl, by rw [ImportTable.contains, hnone]; rfl⟩

theorem Host.follows_of_emitted {h : Host} {e : Emission} {u : BinderUnit}
    (he : h.group.Emitted (s.conforming settings.baseType) settings.invalidFields roots e)
    (hu : e.unit = some u) :
    u.package = h.name.modulePath ∧ u.host = h.name.ident ∧
      List.SublistForall₂ (u.Follows s settings) u.assignments h.bindings := by
  cases he with
  | aborted => cases hu
  | unnameable => cases hu
  | @made results _ _ htreated =>
    obtain rfl := Option.some.inj hu
    refine ⟨rfl, rfl, ?_⟩
    have hfollows : List.SublistForall₂ (fun a d =>
        (h.group.unit (s.conforming settings.baseType) roots (assignmentsOf results)).Follows s settings a
          ⟨d.field, d.type, d.id⟩) (assignmentsOf results) h.declarations := by
      refine sublistForall₂_assignmentsOf (fun d hd ref href => ?_) htreated
      have hlocal := h.group.isSome_local?_imports (s.byType_conforming settings.baseType) hd
      refine BinderUnit.follows_of_typeRef? (b := ⟨d.field, d.type, d.id⟩) ?_ href
      rw [← Schema.conforming_iff (d := d), ← hlocal]
      rfl
    rw [declarations, List.sublistForall₂_map_right_iff] at hfollows
    exact hfollows

/-- The fields reported for their type are those whose type does not reach the base type, host by host
in path order, whatever the policy. Every unit is made for a host with bound fields, and each of its
assignments in turn for one of the host's bindings. A pass without a result has met a field whose name
makes a malformed identifier. -/
theorem generate_conformance (s : Schema) (settings : Settings) (roots : CrateRoots) :
    match generate s settings roots with
    | .ok g =>
      g.diagnostics.filter Diagnostic.isNonconforming =
          (s.hosts.flatMap fun h => h.2.unreached s settings.baseType) ∧
        ∀ u ∈ g.units, ∃ h ∈ s.boundHosts, u.package = h.name.modulePath ∧ u.host = h.name.ident ∧
          List.SublistForall₂ (u.Follows s settings) u.assignments h.bindings
    | .error err => s.StoppedBy settings err := by
  cases hg : generate s settings roots with
  | error err => exact Schema.stoppedBy_of_generate hg
  | ok g =>
    have hpass := generate_eq_ok_iff.mp hg
    constructor
    · rw [hpass.filter_isNonconforming, List.flatMap_map]
      simp only [Host.nonconforming_group]
      rw [Schema.boundHosts, flatMap_unreached_filter, List.flatMap_map]
      rfl
    · intro u hu
      rcases hpass.emitted_of_mem hu with hu | ⟨group, hgroup, e, hemitted, hunit⟩
      · cases hu
      · obtain ⟨h, hh, rfl⟩ := List.mem_map.mp hgroup
        exact ⟨h, hh, Host.follows_of_emitted hemitted hunit⟩

end HostBinder

import HostBinder.Proofs.Binder.Pass

set_option autoImplicit false

namespace HostBinder

/-- A unit that assigns exactly the bound fields of a host, in order, each by an import of its type. -/
structure Host.BoundBy (h : Host) (u : BinderUnit) : Prop where
  package : u.package = h.name.modulePath
  host : u.host = h.name.ident
  assignments :
    List.Forall₂ (fun (b : Binding) (a : Assignment) => a.Imports b.field b.id) h.bindings u.assignments

variable {h : Host} {hs : List Host} {conforms : FieldDecl → Bool} {policy : InvalidFieldPolicy}
  {settings : Settings} {roots : CrateRoots} {e : Emission}

theorem errorCount_append (ds es : List Diagnostic) : errorCount (ds ++ es) = errorCount ds + errorCount es :=
  List.countP_append

theorem errorCount_eq_zero_iff_nil {ds : List Diagnostic} (h : ∀ d ∈ ds, d.isError = true) :
    errorCount ds = 0 ↔ ds = [] := by
  rw [errorCount, List.countP_eq_length.mpr h, List.length_eq_zero_iff]

theorem Host.emitted_clean_iff (hc : ByType conforms) (he : h.group.Emitted conforms policy roots e) :
    (∀ d ∈ h.declarations, conforms d = true) ∧ errorCount e.diagnostics = 0 ↔
      ∃ u, e.unit = some u ∧ h.BoundBy u := by
  cases he with
  | aborted hup =>
    obtain ⟨_, d, hd, hinvalid⟩ := hup
    constructor
    · intro hx
      obtain ⟨hall, _⟩ := hx
      have hd' : d ∈ h.declarations := hd
      simp [hall d hd'] at hinvalid
    · simp
  | unnameable => simp [errorCount, Diagnostic.isError, Diagnostic.severity]
  | @made results hup hname htreated =>
    have herrors : ∀ r ∈ refusalsOf results, r.isError = true := by
      intro r hr
      obtain ⟨d, _, rfl⟩ := exists_unassignable_of_mem_refusalsOf htreated hr
      rfl
    have hlocal : (∀ d ∈ h.declarations, ((h.group.imports conforms).local? d.type).isSome) ↔
        ∀ d ∈ h.declarations, conforms d = true := by
      apply forall₂_congr
      intro d hd
      rw [HostGroup.isSome_local?_imports hc hd]
    have hall := forall₂_imports_iff htreated
    rw [errorCount_eq_zero_iff_nil herrors, ← hlocal]
    constructor
    · intro hclean
      exact ⟨_, rfl, rfl, rfl, List.forall₂_map_left_iff.mp (hall.mpr hclean)⟩
    · intro hx
      obtain ⟨u, hu, hbound⟩ := hx
      obtain rfl := Option.some.inj hu
      exact hall.mp (List.forall₂_map_left_iff.mpr hbound.assignments)

namespace Generation

variable {g g' : Generation}

theorem length_admitted_le (g : Generation) (e : Emission) : (g.admitted e).length ≤ 1 := by
  refine Nat.le_trans (List.length_filter_le _ _) ?_
  cases e.unit <;> simp

theorem admitted_eq_singleton_iff {u : BinderUnit} :
    g.admitted e = [u] ↔ e.unit = some u ∧ errorCount (g.collisions e) = 0 := by
  rw [admitted, collisions]
  cases e.unit with
  | none => simp
  | some v =>
    cases ht : g.taken v with
    | true => simp [ht, errorCount, Diagnostic.isError, Diagnostic.severity]
    | false => simp [ht, errorCount]

theorem errorCount_nonconforming_eq_zero_iff {base : String} {group : HostGroup} :
    errorCount (nonconforming conforms base group) = 0 ↔ ∀ d ∈ group.declarations, conforms d = true := by
  have herrors : ∀ r ∈ nonconforming conforms base group, r.isError = true := by
    intro r hr
    obtain ⟨d, _, rfl⟩ := List.mem_map.mp hr
    rfl
  rw [errorCount_eq_zero_iff_nil herrors]
  simp [nonconforming]

def errorsOf (g : Generation) (conforms : FieldDecl → Bool) (base : String) (h : HostGroup)
    (e : Emission) : Nat :=
  errorCount (nonconforming conforms base h) + errorCount e.diagnostics + errorCount (g.collisions e)

theorem errorCount_absorb (g : Generation) (conforms : FieldDecl → Bool) (base : String) (h : HostGroup)
    (e : Emission) :
    errorCount (g.absorb conforms base h e).diagnostics =
      errorCount g.diagnostics + g.errorsOf conforms base h e := by
  simp only [diagnostics_absorb, errorCount_append, errorsOf]
  omega

theorem errorsOf_eq_zero_iff (hc : ByType conforms)
    (he : h.group.Emitted conforms policy roots e) (base : String) :
    g.errorsOf conforms base h.group e = 0 ↔ ∃ u, g.admitted e = [u] ∧ h.BoundBy u := by
  have hclean := Host.emitted_clean_iff hc he
  simp only [errorsOf, Nat.add_eq_zero_iff, errorCount_nonconforming_eq_zero_iff, admitted_eq_singleton_iff]
  constructor
  · intro hx
    obtain ⟨herrors, hcollisions⟩ := hx
    obtain ⟨u, hu, hbound⟩ := hclean.mp herrors
    exact ⟨u, ⟨hu, hcollisions⟩, hbound⟩
  · intro hx
    obtain ⟨u, ⟨hu, hcollisions⟩, hbound⟩ := hx
    exact ⟨hclean.mpr ⟨u, hu, hbound⟩, hcollisions⟩

/-- Over any number of hosts the errors stay the same exactly when each adds, in turn, a unit that binds
all of it. A host adds one unit at most, so a host that adds none is not made up for by another. -/
theorem Pass.clean_iff (hc : ByType conforms)
    (hp : Pass conforms settings roots g (hs.map Host.group) g') :
    ∃ added, g'.units = g.units ++ added ∧ added.length ≤ hs.length ∧
      errorCount g.diagnostics ≤ errorCount g'.diagnostics ∧
      (errorCount g'.diagnostics = errorCount g.diagnostics ↔ List.Forall₂ Host.BoundBy hs added) := by
  induction hs generalizing g with
  | nil =>
    cases hp
    exact ⟨[], by simp⟩
  | cons h hs ih =>
    rw [List.map_cons] at hp
    cases hp with
    | @host _ _ _ _ e hemitted hrest =>
      obtain ⟨added, hunits, hlength, hle, hiff⟩ := ih hrest
      have herrors := errorCount_absorb g conforms settings.baseType h.group e
      have hstep := errorsOf_eq_zero_iff (g := g) hc hemitted settings.baseType
      have hone := length_admitted_le g e
      refine ⟨g.admitted e ++ added, by rw [hunits, units_absorb, List.append_assoc], ?_, by omega, ?_⟩
      · rw [List.length_append, List.length_cons]
        omega
      · constructor
        · intro hsame
          obtain ⟨u, hu, hbound⟩ := hstep.mp (by omega)
          rw [hu]
          exact .cons hbound (hiff.mp (by omega))
        · intro hall
          have hlen := hall.length_eq
          rw [List.length_append, List.length_cons] at hlen
          obtain ⟨u, hu⟩ := List.length_eq_one_iff.mp (show (g.admitted e).length = 1 by omega)
          rw [hu] at hall
          obtain ⟨hbound, hall⟩ := List.forall₂_cons.mp hall
          have hzero := hstep.mpr ⟨u, hu, hbound⟩
          have := hiff.mpr hall
          omega

end Generation

/-- A pass reports no error exactly when its units are those of the hosts with bound fields, one for one
in path order, each with the bound fields of its host one for one. A pass without a result has met a
field whose name makes a malformed identifier. -/
theorem generate_clean_iff (s : Schema) (settings : Settings) (roots : CrateRoots) :
    match generate s settings roots with
    | .ok g => errorCount g.diagnostics = 0 ↔ List.Forall₂ Host.BoundBy s.boundHosts g.units
    | .error err => s.StoppedBy settings err := by
  cases hg : generate s settings roots with
  | error err => exact Schema.stoppedBy_of_generate hg
  | ok g =>
    have hpass := generate_eq_ok_iff.mp hg
    obtain ⟨added, hunits, _, _, hiff⟩ := hpass.clean_iff (s.byType_conforming settings.baseType)
    obtain rfl : g.units = added := hunits
    exact hiff

end HostBinder

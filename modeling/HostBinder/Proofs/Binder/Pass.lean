import HostBinder.Binder.Generation
import HostBinder.Proofs.Binder.Emission
import HostBinder.Proofs.Binder.Groups

set_option autoImplicit false

namespace HostBinder

open Code

namespace Generation

def taken (g : Generation) (u : BinderUnit) : Bool := g.units.any fun v => v.moduleName = u.moduleName

def admitted (g : Generation) (e : Emission) : List BinderUnit := e.unit.toList.filter fun u => !g.taken u

def collisions (g : Generation) (e : Emission) : List Diagnostic :=
  (e.unit.toList.filter g.taken).map fun u => .moduleTaken u.moduleName u.hostPath

def absorb (g : Generation) (conforms : FieldDecl → Bool) (base : String) (h : HostGroup) (e : Emission) :
    Generation :=
  let g := (g.reportAll (nonconforming conforms base h)).reportAll e.diagnostics
  match e.unit with
  | some u => g.addUnit u
  | none => g

variable {g g' : Generation} {conforms : FieldDecl → Bool} {base : String} {settings : Settings}
  {roots : CrateRoots} {h : HostGroup} {hs : List HostGroup} {e : Emission}

@[simp] theorem units_reportAll (g : Generation) (ds : List Diagnostic) :
    (g.reportAll ds).units = g.units := by
  induction ds generalizing g with
  | nil => rfl
  | cons d ds ih => exact ih (g.report d)

@[simp] theorem diagnostics_reportAll (g : Generation) (ds : List Diagnostic) :
    (g.reportAll ds).diagnostics = g.diagnostics ++ ds := by
  induction ds generalizing g with
  | nil => simp [reportAll]
  | cons d ds ih =>
    have := ih (g.report d)
    simpa [reportAll, report] using this

@[simp] theorem taken_reportAll (g : Generation) (ds : List Diagnostic) (u : BinderUnit) :
    (g.reportAll ds).taken u = g.taken u := by
  rw [taken, units_reportAll, taken]

theorem addUnit_of_taken {u : BinderUnit} (h : g.taken u = true) :
    g.addUnit u = g.report (.moduleTaken u.moduleName u.hostPath) := by
  rw [addUnit, if_pos (by rwa [taken] at h)]

theorem addUnit_of_not_taken {u : BinderUnit} (h : g.taken u = false) :
    g.addUnit u =
      { g with
        units := g.units ++ [u]
        events := g.events ++ [.binderGenerated u.registeredName u.assignments.length] } := by
  rw [addUnit, if_neg (by rw [taken] at h; simp [h])]

theorem units_absorb (g : Generation) (e : Emission) :
    (g.absorb conforms base h e).units = g.units ++ g.admitted e := by
  rw [absorb, admitted]
  cases e.unit with
  | none => simp
  | some u =>
    cases ht : g.taken u with
    | true => simp [addUnit_of_taken, ht, report]
    | false => simp [addUnit_of_not_taken, ht]

theorem diagnostics_absorb (g : Generation) (e : Emission) :
    (g.absorb conforms base h e).diagnostics =
      g.diagnostics ++ nonconforming conforms base h ++ e.diagnostics ++ g.collisions e := by
  rw [absorb, collisions]
  cases e.unit with
  | none => simp
  | some u =>
    cases ht : g.taken u with
    | true => simp [addUnit_of_taken, ht, report]
    | false => simp [addUnit_of_not_taken, ht]

theorem addHost_eq_bind :
    g.addHost conforms settings roots h =
      h.emit conforms settings.invalidFields roots >>= fun e =>
        pure (g.absorb conforms settings.baseType h e) := by
  rw [addHost]
  congr
  funext e
  rw [absorb]
  cases e.unit <;> rfl

theorem addHost_eq_ok_iff :
    g.addHost conforms settings roots h = .ok g' ↔
      ∃ e, h.Emitted conforms settings.invalidFields roots e ∧
        g.absorb conforms settings.baseType h e = g' := by
  rw [addHost_eq_bind, Attempt.bind_eq_ok_iff]
  simp only [Attempt.pure_eq_ok_iff, HostGroup.emit_eq_ok_iff]

theorem addHost_eq_error {err : MalformedIdent} (herr : g.addHost conforms settings roots h = .error err) :
    h.emit conforms settings.invalidFields roots = .error err := by
  rw [addHost_eq_bind, Attempt.bind_eq_error_iff] at herr
  rcases herr with herr | ⟨e, _, herr⟩
  · exact herr
  · cases herr

/-- A pass over hosts: from each host something comes, and the pass goes on with that added. -/
inductive Pass (conforms : FieldDecl → Bool) (settings : Settings) (roots : CrateRoots) :
    Generation → List HostGroup → Generation → Prop
  | done (g : Generation) : Pass conforms settings roots g [] g
  | host {g g' : Generation} {h : HostGroup} {hs : List HostGroup} {e : Emission}
      (hemitted : h.Emitted conforms settings.invalidFields roots e)
      (hrest : Pass conforms settings roots (g.absorb conforms settings.baseType h e) hs g') :
      Pass conforms settings roots g (h :: hs) g'

theorem foldlM_eq_ok_iff :
    hs.foldlM (addHost conforms settings roots) g = .ok g' ↔ Pass conforms settings roots g hs g' := by
  induction hs generalizing g with
  | nil =>
    rw [List.foldlM_nil, Attempt.pure_eq_ok_iff]
    constructor
    · intro heq
      subst heq
      exact .done g
    · intro h
      cases h
      rfl
  | cons h hs ih =>
    rw [List.foldlM_cons, Attempt.bind_eq_ok_iff]
    constructor
    · intro hx
      obtain ⟨g₁, hg₁, hrest⟩ := hx
      obtain ⟨e, he, rfl⟩ := addHost_eq_ok_iff.mp hg₁
      exact .host he (ih.mp hrest)
    · intro h
      cases h with
      | host hemitted hrest => exact ⟨_, addHost_eq_ok_iff.mpr ⟨_, hemitted, rfl⟩, ih.mpr hrest⟩

namespace Pass

theorem emitted_of_mem (hp : Pass conforms settings roots g hs g') {u : BinderUnit} (hu : u ∈ g'.units) :
    u ∈ g.units ∨
      ∃ h ∈ hs, ∃ e, h.Emitted conforms settings.invalidFields roots e ∧ e.unit = some u := by
  induction hp with
  | done => exact .inl hu
  | @host g g' h hs e hemitted _ ih =>
    rcases ih hu with hu | ⟨h', hh', he'⟩
    · rw [units_absorb] at hu
      rcases List.mem_append.mp hu with hu | hu
      · exact .inl hu
      · have hunit : e.unit = some u := Option.mem_toList.mp (List.mem_filter.mp hu).1
        exact .inr ⟨h, by simp, e, hemitted, hunit⟩
    · exact .inr ⟨h', List.mem_cons_of_mem _ hh', he'⟩

end Pass

theorem exists_pass_iff {g : Generation} {groups : List HostGroup} :
    (∃ g', Pass conforms settings roots g groups g') ↔
      ∀ group ∈ groups, ∃ e, group.Emitted conforms settings.invalidFields roots e := by
  induction groups generalizing g with
  | nil =>
    constructor
    · simp
    · intro _
      exact ⟨g, .done g⟩
  | cons group groups ih =>
    rw [List.forall_mem_cons]
    constructor
    · intro hx
      obtain ⟨g', hp⟩ := hx
      cases hp with
      | host hemitted hrest => exact ⟨⟨_, hemitted⟩, ih.mp ⟨g', hrest⟩⟩
    · intro hx
      obtain ⟨⟨e, he⟩, hrest⟩ := hx
      obtain ⟨g', hp⟩ := ih.mpr hrest
      exact ⟨g', .host he hp⟩

end Generation

def Schema.conforming (s : Schema) (base : String) (d : FieldDecl) : Bool := s.hierarchy.conforms d.type base

theorem Schema.conforming_iff {s : Schema} {base : String} {d : FieldDecl} :
    s.conforming base d = true ↔ s.Reaches d.type base :=
  hierarchy_conforms_iff

theorem Schema.byType_conforming (s : Schema) (base : String) : ByType (s.conforming base) := by
  intro d e h
  rw [conforming, conforming, h]

theorem generate_eq_ok_iff {s : Schema} {settings : Settings} {roots : CrateRoots} {g : Generation} :
    generate s settings roots = .ok g ↔
      Generation.Pass (s.conforming settings.baseType) settings roots .empty
        (s.boundHosts.map Host.group) g := by
  rw [← Generation.foldlM_eq_ok_iff, ← s.groupByHost_declarations]
  rfl

theorem exists_emit_eq_error {s : Schema} {settings : Settings} {roots : CrateRoots} {err : MalformedIdent}
    (h : generate s settings roots = .error err) :
    ∃ host ∈ s.boundHosts,
      host.group.emit (s.conforming settings.baseType) settings.invalidFields roots = .error err := by
  rw [generate, s.groupByHost_declarations] at h
  obtain ⟨group, hgroup, g, h⟩ := Attempt.exists_of_foldlM_eq_error h
  obtain ⟨host, hhost, rfl⟩ := List.mem_map.mp hgroup
  exact ⟨host, hhost, Generation.addHost_eq_error h⟩

theorem exists_generate_iff {s : Schema} {settings : Settings} {roots : CrateRoots} :
    (∃ g, generate s settings roots = .ok g) ↔
      ∀ h ∈ s.boundHosts, ∃ e, h.group.emit (s.conforming settings.baseType) settings.invalidFields roots = .ok e := by
  simp only [generate_eq_ok_iff, Generation.exists_pass_iff, List.forall_mem_map, HostGroup.emit_eq_ok_iff]

def Binding.IsDue (b : Binding) (s : Schema) (settings : Settings) : Prop :=
  s.Reaches b.type settings.baseType ∨ settings.invalidFields = .emit

namespace Host

section Fate

variable (h : Host) (s : Schema) (settings : Settings)

def AllReach (base : String) : Prop := ∀ b ∈ h.bindings, s.Reaches b.type base

def IsAborted : Prop := settings.invalidFields = .abort ∧ ¬h.AllReach s settings.baseType

/-- Whether the fields of a host are looked at one by one. -/
def IsTried : Prop := ¬h.IsAborted s settings ∧ h.group.isNameable = true

/-- Whether the pass stops at a binding: it is to be assigned, but its field makes a malformed identifier. -/
def IsStoppedAt (b : Binding) (err : MalformedIdent) : Prop :=
  h.IsTried s settings ∧ b ∈ h.bindings ∧ b.IsDue s settings ∧ fieldIdent? b.field = .error err

instance (base : String) : Decidable (h.AllReach s base) :=
  inferInstanceAs (Decidable (∀ b ∈ h.bindings, s.Reaches b.type base))

instance : Decidable (h.IsAborted s settings) := inferInstanceAs (Decidable (_ ∧ ¬h.AllReach s settings.baseType))

instance : Decidable (h.IsTried s settings) := inferInstanceAs (Decidable (¬h.IsAborted s settings ∧ _))

instance (b : Binding) : Decidable (b.IsDue s settings) :=
  inferInstanceAs (Decidable (s.Reaches b.type settings.baseType ∨ _))

end Fate

end Host

/-- What keeps a pass from having a result. -/
def Schema.StoppedBy (s : Schema) (settings : Settings) (err : MalformedIdent) : Prop :=
  ∃ h ∈ s.boundHosts, ∃ b, h.IsStoppedAt s settings b err

section Stopping

variable {s : Schema} {settings : Settings} {roots : CrateRoots} {h : Host} {b : Binding} {err : MalformedIdent}

theorem Schema.conforms_declarations_iff {base : String} :
    (∀ d ∈ h.group.declarations, s.conforming base d = true) ↔ h.AllReach s base := by
  unfold Host.AllReach Host.group Host.declarations
  simp only [List.forall_mem_map, conforming_iff]

namespace Host

theorem isAborted_iff :
    h.IsAborted s settings ↔ h.group.GivenUp (s.conforming settings.baseType) settings.invalidFields := by
  unfold IsAborted HostGroup.GivenUp
  rw [← Schema.conforms_declarations_iff]
  simp

theorem mem_group_declarations (hb : b ∈ h.bindings) :
    (⟨h.name.modulePath, h.name.ident, b.field, b.type, b.id⟩ : FieldDecl) ∈ h.group.declarations :=
  List.mem_map.mpr ⟨b, hb, rfl⟩

theorem isDue_iff (hb : b ∈ h.bindings) :
    b.IsDue s settings ↔
      ∃ ref, typeRef? (h.group.imports (s.conforming settings.baseType)) settings.invalidFields b.type = some ref := by
  have hdue : (∃ ref, typeRef? (h.group.imports (s.conforming settings.baseType)) settings.invalidFields b.type =
      some ref) ↔ _ :=
    HostGroup.exists_typeRef?_iff (s.byType_conforming settings.baseType) (mem_group_declarations hb)
  rw [hdue, Schema.conforming_iff]
  rfl

theorem exists_isStoppedAt
    (he : h.group.emit (s.conforming settings.baseType) settings.invalidFields roots = .error err) :
    ∃ b, h.IsStoppedAt s settings b err := by
  obtain ⟨hup, hname, d, hd, hdue, hident⟩ := HostGroup.emit_eq_error he
  obtain ⟨b, hb, rfl⟩ := List.mem_map.mp hd
  exact ⟨b, ⟨mt isAborted_iff.mp hup, hname⟩, hb, (isDue_iff hb).mpr hdue, hident⟩

theorem IsStoppedAt.emit_fails (hstopped : h.IsStoppedAt s settings b err) (roots : CrateRoots) :
    ∃ e, h.group.emit (s.conforming settings.baseType) settings.invalidFields roots = .error e := by
  obtain ⟨⟨hnot, hname⟩, hb, hdue, hident⟩ := hstopped
  exact HostGroup.emit_fails_iff.mpr
    ⟨mt isAborted_iff.mpr hnot, hname, _, mem_group_declarations hb, (isDue_iff hb).mp hdue, err, hident⟩

end Host

theorem Schema.stoppedBy_of_generate (hg : generate s settings roots = .error err) : s.StoppedBy settings err := by
  obtain ⟨h, hh, he⟩ := exists_emit_eq_error hg
  exact ⟨h, hh, Host.exists_isStoppedAt he⟩

/-- A pass has a result unless it is stopped. -/
theorem generate_returns_iff : (∃ g, generate s settings roots = .ok g) ↔ ∀ err, ¬s.StoppedBy settings err := by
  constructor
  · rintro hg err ⟨h, hh, b, hstopped⟩
    obtain ⟨e, he⟩ := exists_generate_iff.mp hg h hh
    obtain ⟨_, he'⟩ := hstopped.emit_fails roots
    cases he.symm.trans he'
  · intro hnot
    cases hg : generate s settings roots with
    | ok g => exact ⟨g, rfl⟩
    | error err => exact absurd (Schema.stoppedBy_of_generate hg) (hnot err)

end Stopping

end HostBinder

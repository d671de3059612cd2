import HostBinder.Proofs.Binder.Conformance
import Mathlib.Data.List.Nodup

set_option autoImplicit false

/-!
What each host adds to a pass, told without the pass. A share depends on the host alone, but for the module name of
its unit, which may be that of a unit before. A pass has a result when every host has one, and the result is
then the shares of the hosts in path order.
-/

namespace HostBinder

open Code

theorem flatMap_ite_singleton {α β : Type} (p : α → Bool) (f : α → β) (xs : List α) :
    (xs.flatMap fun x => if p x then [f x] else []) = (xs.filter p).map f := by
  induction xs with
  | nil => rfl
  | cons x xs ih => cases hp : p x <;> simp [hp, ih]

namespace Schema

section Share

variable (s : Schema) (settings : Settings) (roots : CrateRoots) (h : Host)

/-- What comes of a host; nothing, if a field's name makes a malformed identifier. -/
def emission : Emission :=
  match h.group.emit (s.conforming settings.baseType) settings.invalidFields roots with
  | .ok e => e
  | .error _ => ⟨none, []⟩

def draft? : Option BinderUnit := (s.emission settings roots h).unit

def drafts (moduleName : String) : Bool := (s.draft? settings roots h).any fun u => u.moduleName = moduleName

def hostsBefore : List Host := s.boundHosts.takeWhile fun h' => h'.name ≠ h.name

/-- Whether the unit made for a host has the module name of one made before. -/
def displaced : Bool :=
  (s.draft? settings roots h).any fun u => (s.hostsBefore h).any fun h' => s.drafts settings roots h' u.moduleName

/-- The unit that a pass has for a host. -/
def kept? : Option BinderUnit := if s.displaced settings roots h then none else s.draft? settings roots h

def collisions : List Diagnostic :=
  if s.displaced settings roots h then
    (s.draft? settings roots h).toList.map fun u => .moduleTaken u.moduleName u.hostPath
  else []

/-- What a pass reports on a host. -/
def reports : List Diagnostic :=
  h.unreached s settings.baseType ++ (s.emission settings roots h).diagnostics ++ s.collisions settings roots h

def events : List Event :=
  (s.reports settings roots h).map .diagnosed ++
    (s.kept? settings roots h).toList.map fun u => .binderGenerated u.registeredName u.assignments.length

/-- The shares of hosts put together. -/
def shares (hs : List Host) : Generation where
  units := hs.filterMap (s.kept? settings roots)
  diagnostics := hs.flatMap (s.reports settings roots)
  events := hs.flatMap (s.events settings roots)

end Share

variable {s : Schema} {settings : Settings} {roots : CrateRoots} {h : Host} {before after : List Host}

@[simp] theorem units_shares (hs : List Host) :
    (s.shares settings roots hs).units = hs.filterMap (s.kept? settings roots) := rfl

@[simp] theorem diagnostics_shares (hs : List Host) :
    (s.shares settings roots hs).diagnostics = hs.flatMap (s.reports settings roots) := rfl

@[simp] theorem events_shares (hs : List Host) :
    (s.shares settings roots hs).events = hs.flatMap (s.events settings roots) := rfl

theorem boundHosts_names_differ (s : Schema) : s.boundHosts.Pairwise fun a b => a.name ≠ b.name :=
  s.hosts_names_differ.filter _

theorem eq_of_name_eq {h' : Host} (hh : h ∈ s.boundHosts) (hh' : h' ∈ s.boundHosts) (hname : h.name = h'.name) :
    h = h' := by
  have hnodup : (s.boundHosts.map Host.name).Nodup := List.pairwise_map.mpr s.boundHosts_names_differ
  exact List.inj_on_of_nodup_map hnodup hh hh' hname

theorem hostsBefore_eq (hs : s.boundHosts = before ++ h :: after) : s.hostsBefore h = before := by
  have hdiffer := s.boundHosts_names_differ
  rw [hs, List.pairwise_append] at hdiffer
  obtain ⟨_, _, hcross⟩ := hdiffer
  unfold hostsBefore
  rw [hs, List.takeWhile_append_of_pos]
  · simp
  · intro h' hh'
    simpa using hcross h' hh' h (by simp)

theorem emit_eq_ok (hok : ∃ e, h.group.emit (s.conforming settings.baseType) settings.invalidFields roots = .ok e) :
    h.group.emit (s.conforming settings.baseType) settings.invalidFields roots = .ok (s.emission settings roots h) := by
  obtain ⟨e, he⟩ := hok
  unfold emission
  rw [he]

theorem emission_eq_of_emitted {e : Emission}
    (he : h.group.Emitted (s.conforming settings.baseType) settings.invalidFields roots e) :
    s.emission settings roots h = e := by
  unfold emission
  rw [HostGroup.emit_eq_ok_iff.mpr he]

theorem drafts_iff {m : String} :
    s.drafts settings roots h m = true ↔ ∃ u, s.draft? settings roots h = some u ∧ u.moduleName = m := by
  unfold drafts
  rw [Option.any_eq_true]
  simp

theorem exists_first_drafts {hs : List Host} {m : String} (hm : ∃ h ∈ hs, s.drafts settings roots h m = true) :
    ∃ before first after, hs = before ++ first :: after ∧ s.drafts settings roots first m = true ∧
      ∀ h ∈ before, s.drafts settings roots h m = false := by
  cases hf : hs.find? fun h => s.drafts settings roots h m with
  | none =>
    obtain ⟨h, hh, hd⟩ := hm
    have hnone := List.find?_eq_none.mp hf h hh
    exact absurd hd hnone
  | some first =>
    obtain ⟨hd, before, after, rfl, hbefore⟩ := List.find?_eq_some_iff_append.mp hf
    exact ⟨before, first, after, rfl, hd, fun h hh => by simpa using hbefore h hh⟩

theorem any_kept_eq {m : String} (hs : s.boundHosts = before ++ after) :
    ((before.filterMap (s.kept? settings roots)).any fun v => v.moduleName = m) =
      before.any fun h' => s.drafts settings roots h' m := by
  rw [Bool.eq_iff_iff, List.any_eq_true, List.any_eq_true]
  constructor
  · intro hx
    obtain ⟨v, hv, hm⟩ := hx
    obtain ⟨h', hh', hkept⟩ := List.mem_filterMap.mp hv
    refine ⟨h', hh', drafts_iff.mpr ⟨v, ?_, of_decide_eq_true hm⟩⟩
    unfold kept? at hkept
    split at hkept
    · cases hkept
    · exact hkept
  · intro hx
    -- of the hosts with a unit under the name, the first one has nothing before it to be displaced by
    obtain ⟨front, first, rest, rfl, hd, hfront⟩ := exists_first_drafts hx
    obtain ⟨v, hv, hm⟩ := drafts_iff.mp hd
    have hfirst : s.displaced settings roots first = false := by
      rw [List.append_assoc, List.cons_append] at hs
      unfold displaced
      rw [hostsBefore_eq hs, hv]
      simpa [hm] using hfront
    refine ⟨v, List.mem_filterMap.mpr ⟨first, by simp, ?_⟩, by simpa using hm⟩
    unfold kept?
    rw [hfirst]
    simpa using hv

theorem taken_shares {u : BinderUnit} (hs : s.boundHosts = before ++ h :: after)
    (hu : s.draft? settings roots h = some u) :
    (s.shares settings roots before).taken u = s.displaced settings roots h := by
  unfold Generation.taken displaced
  rw [units_shares, any_kept_eq hs, hostsBefore_eq hs, hu]
  rfl

theorem kept?_eq_some_iff {u : BinderUnit} :
    s.kept? settings roots h = some u ↔ s.draft? settings roots h = some u ∧ s.displaced settings roots h = false := by
  unfold kept?
  cases hd : s.displaced settings roots h <;> simp

theorem displaced_iff (hs : s.boundHosts = before ++ h :: after) :
    s.displaced settings roots h = true ↔
      ∃ m, s.drafts settings roots h m = true ∧ ∃ h' ∈ before, s.drafts settings roots h' m = true := by
  unfold displaced
  rw [hostsBefore_eq hs, Option.any_eq_true]
  constructor
  · intro hx
    obtain ⟨u, hu, hany⟩ := hx
    exact ⟨u.moduleName, drafts_iff.mpr ⟨u, hu, rfl⟩, List.any_eq_true.mp hany⟩
  · intro hx
    obtain ⟨m, hm, hany⟩ := hx
    obtain ⟨u, hu, rfl⟩ := drafts_iff.mp hm
    exact ⟨u, hu, List.any_eq_true.mpr hany⟩

theorem emitted_emission
    (hok : ∃ e, h.group.emit (s.conforming settings.baseType) settings.invalidFields roots = .ok e) :
    h.group.Emitted (s.conforming settings.baseType) settings.invalidFields roots (s.emission settings roots h) :=
  HostGroup.emit_eq_ok_iff.mp (emit_eq_ok hok)

theorem emitted_or_empty (s : Schema) (settings : Settings) (roots : CrateRoots) (h : Host) :
    h.group.Emitted (s.conforming settings.baseType) settings.invalidFields roots (s.emission settings roots h) ∨
      s.emission settings roots h = ⟨none, []⟩ := by
  cases he : h.group.emit (s.conforming settings.baseType) settings.invalidFields roots with
  | ok e => exact .inl (emitted_emission ⟨e, he⟩)
  | error err => exact .inr (by unfold emission; rw [he])

theorem hostName_of_draft? {u : BinderUnit} (hu : s.draft? settings roots h = some u) :
    u.package = h.name.modulePath ∧ u.host = h.name.ident := by
  rcases s.emitted_or_empty settings roots h with he | he
  · obtain ⟨_, results, _, rfl⟩ := he.eq_unit hu
    exact ⟨rfl, rfl⟩
  · unfold draft? at hu
    rw [he] at hu
    cases hu

theorem moduleName_of_draft? {u : BinderUnit} (hu : s.draft? settings roots h = some u) :
    u.moduleName = h.group.moduleName := by
  rcases s.emitted_or_empty settings roots h with he | he
  · obtain ⟨_, results, _, rfl⟩ := he.eq_unit hu
    rfl
  · unfold draft? at hu
    rw [he] at hu
    cases hu

theorem hostPath_of_draft? {u : BinderUnit} (hu : s.draft? settings roots h = some u) : u.hostPath = h.group.path := by
  obtain ⟨hpackage, hhost⟩ := hostName_of_draft? hu
  rw [BinderUnit.hostPath, hpackage, hhost]
  rfl

theorem mem_diagnostics_emission {d : Diagnostic} (hd : d ∈ (s.emission settings roots h).diagnostics) :
    (∃ n, d = .aborted h.group.path n) ∨ d = .unnameable h.group.path ∨
      ∃ b ∈ h.bindings, d = .unassignable b.field h.group.path := by
  rcases s.emitted_or_empty settings roots h with he | he
  · cases he' : s.emission settings roots h with
    | mk unit diagnostics =>
      rw [he'] at he hd
      cases he with
      | aborted => exact .inl ⟨_, List.mem_singleton.mp hd⟩
      | unnameable => exact .inr (.inl (List.mem_singleton.mp hd))
      | made _ _ htreated =>
        obtain ⟨d', hd', rfl⟩ := exists_unassignable_of_mem_refusalsOf htreated hd
        obtain ⟨b, hb, rfl⟩ := List.mem_map.mp hd'
        exact .inr (.inr ⟨b, hb, rfl⟩)
  · rw [he] at hd
    cases hd

theorem isError_of_mem_unreached {base : String} {d : Diagnostic} (hd : d ∈ h.unreached s base) :
    d.isError = true := by
  obtain ⟨b, _, rfl⟩ := List.mem_map.mp hd
  rfl

theorem isError_of_mem_collisions {d : Diagnostic} (hd : d ∈ s.collisions settings roots h) : d.isError = true := by
  unfold collisions at hd
  split at hd
  · obtain ⟨u, _, rfl⟩ := List.mem_map.mp hd
    rfl
  · cases hd

end Schema

namespace Generation

variable {s : Schema} {settings : Settings} {roots : CrateRoots} {h : Host} {hs before after : List Host}
  {g' : Generation} {conforms : FieldDecl → Bool}

theorem ext {g g' : Generation} (hunits : g.units = g'.units) (hdiagnostics : g.diagnostics = g'.diagnostics)
    (hevents : g.events = g'.events) : g = g' := by
  cases g
  cases g'
  simp_all

@[simp] theorem events_reportAll (g : Generation) (ds : List Diagnostic) :
    (g.reportAll ds).events = g.events ++ ds.map .diagnosed := by
  induction ds generalizing g with
  | nil => simp [reportAll]
  | cons d ds ih =>
    have := ih (g.report d)
    simpa [reportAll, report] using this

theorem events_absorb (g : Generation) (base : String) (group : HostGroup) (e : Emission) :
    (g.absorb conforms base group e).events =
      g.events ++ (nonconforming conforms base group ++ e.diagnostics ++ g.collisions e).map .diagnosed ++
        (g.admitted e).map fun u => .binderGenerated u.registeredName u.assignments.length := by
  unfold absorb collisions admitted
  cases e.unit with
  | none => simp
  | some u =>
    cases ht : g.taken u with
    | true => simp [addUnit_of_taken, ht, report]
    | false => simp [addUnit_of_not_taken, ht]

section Step

variable {e : Emission} (hbound : s.boundHosts = before ++ h :: after)
  (he : h.group.Emitted (s.conforming settings.baseType) settings.invalidFields roots e)

include hbound he

theorem admitted_shares : (s.shares settings roots before).admitted e = (s.kept? settings roots h).toList := by
  have hdraft : s.draft? settings roots h = e.unit := congrArg Emission.unit (Schema.emission_eq_of_emitted he)
  unfold admitted Schema.kept?
  rw [← hdraft]
  cases hu : s.draft? settings roots h with
  | none => simp
  | some u =>
    have htaken := Schema.taken_shares hbound hu
    cases hd : s.displaced settings roots h <;> simp [htaken, hd]

theorem collisions_shares : (s.shares settings roots before).collisions e = s.collisions settings roots h := by
  have hdraft : s.draft? settings roots h = e.unit := congrArg Emission.unit (Schema.emission_eq_of_emitted he)
  unfold collisions Schema.collisions
  rw [← hdraft]
  cases hu : s.draft? settings roots h with
  | none => simp
  | some u =>
    have htaken := Schema.taken_shares hbound hu
    cases hd : s.displaced settings roots h <;> simp [htaken, hd]

theorem absorb_shares :
    (s.shares settings roots before).absorb (s.conforming settings.baseType) settings.baseType h.group e =
      s.shares settings roots (before ++ [h]) := by
  have hreports : s.reports settings roots h =
      nonconforming (s.conforming settings.baseType) settings.baseType h.group ++ e.diagnostics ++
        s.collisions settings roots h := by
    unfold Schema.reports
    rw [Schema.emission_eq_of_emitted he, h.nonconforming_group]
  have hkept : [h].filterMap (s.kept? settings roots) = (s.kept? settings roots h).toList := by
    cases hk : s.kept? settings roots h <;> simp [hk]
  apply Generation.ext
  · rw [units_absorb, admitted_shares hbound he, Schema.units_shares, Schema.units_shares, List.filterMap_append, hkept]
  · rw [diagnostics_absorb, collisions_shares hbound he, Schema.diagnostics_shares, Schema.diagnostics_shares,
      List.flatMap_append, List.flatMap_singleton, hreports]
    simp only [List.append_assoc]
  · rw [events_absorb, admitted_shares hbound he, collisions_shares hbound he, Schema.events_shares,
      Schema.events_shares, List.flatMap_append, List.flatMap_singleton, Schema.events, hreports]
    simp only [List.append_assoc]

end Step

theorem Pass.eq_shares (hp : Pass (s.conforming settings.baseType) settings roots (s.shares settings roots before)
    (hs.map Host.group) g') (hbound : s.boundHosts = before ++ hs) : g' = s.shares settings roots (before ++ hs) := by
  induction hs generalizing before with
  | nil =>
    cases hp
    rw [List.append_nil]
  | cons h hs ih =>
    rw [List.map_cons] at hp
    cases hp with
    | host hemitted hrest =>
      rw [absorb_shares hbound hemitted] at hrest
      have heq : before ++ h :: hs = before ++ [h] ++ hs := by simp
      rw [heq]
      exact ih hrest (hbound.trans heq)

end Generation

variable {s : Schema} {settings : Settings} {roots : CrateRoots} {g : Generation}

theorem eq_shares_of_generate (hg : generate s settings roots = .ok g) :
    g = s.shares settings roots s.boundHosts :=
  have hpass : Generation.Pass _ settings roots (s.shares settings roots []) _ g := generate_eq_ok_iff.mp hg
  hpass.eq_shares rfl

theorem emit_of_generate (hg : generate s settings roots = .ok g) {h : Host} (hh : h ∈ s.boundHosts) :
    h.group.emit (s.conforming settings.baseType) settings.invalidFields roots = .ok (s.emission settings roots h) :=
  Schema.emit_eq_ok (exists_generate_iff.mp ⟨g, hg⟩ h hh)

end HostBinder

import HostBinder.Proofs.Binder.ModuleNames
import Mathlib.Data.List.Flatten

set_option autoImplicit false

/-!
One schema under the three policies on fields of invalid type. Without such fields the policies do the same; with
them, leaving out gives the units of assigning by path, short of the assignments by path, and giving up loses whole
hosts and no more. Giving up a host may free its module name for another, so units are compared host by host.
-/

namespace HostBinder

open Code

def Assignment.isImported (a : Assignment) : Bool :=
  match a.type with
  | .imported _ => true
  | .qualified _ => false

/-- A unit without its assignments by path. -/
def BinderUnit.importedOnly (u : BinderUnit) : BinderUnit :=
  { u with assignments := u.assignments.filter Assignment.isImported }

def Settings.withPolicy (settings : Settings) (policy : InvalidFieldPolicy) : Settings :=
  { settings with invalidFields := policy }

@[simp] theorem baseType_withPolicy (settings : Settings) (policy : InvalidFieldPolicy) :
    (settings.withPolicy policy).baseType = settings.baseType := rfl

@[simp] theorem invalidFields_withPolicy (settings : Settings) (policy : InvalidFieldPolicy) :
    (settings.withPolicy policy).invalidFields = policy := rfl

structure Schema.PoliciesCompare (s : Schema) (settings : Settings) (roots : CrateRoots) : Prop where
  /-- Without fields of invalid type the policies do the same. -/
  same : (∀ h ∈ s.boundHosts, h.AllReach s settings.baseType) →
    ∀ p q, generate s (settings.withPolicy p) roots = generate s (settings.withPolicy q) roots
  /-- Where fields can be assigned by path they can be left out, with the same units but for these assignments. -/
  leftOut : ∀ ge, generate s (settings.withPolicy .emit) roots = .ok ge →
    ∃ gs, generate s (settings.withPolicy .skip) roots = .ok gs ∧ gs.units = ge.units.map BinderUnit.importedOnly ∧
      gs.diagnostics.Sublist ge.diagnostics
  /-- Where they cannot though they can be left out, one of them has a malformed name. -/
  stopped : ∀ err gs, generate s (settings.withPolicy .emit) roots = .error err →
    generate s (settings.withPolicy .skip) roots = .ok gs →
      ∃ h ∈ s.boundHosts, ∃ b, h.IsStoppedAt s (settings.withPolicy .emit) b err ∧ ¬s.Reaches b.type settings.baseType
  /-- A host with such a field has no unit, if hosts are given up, and one warning. -/
  givenUp : ∀ ga, generate s (settings.withPolicy .abort) roots = .ok ga →
    (∀ u ∈ ga.units, ∀ h ∈ s.boundHosts, u.hostName = (h.name.modulePath, h.name.ident) →
      h.AllReach s settings.baseType) ∧
    ga.diagnostics.filter (fun d => d.severity = .warning) =
      (s.boundHosts.filter fun h => h.bindings.any fun b => ¬s.Reaches b.type settings.baseType).map fun h =>
        .aborted (memberPath h.name.modulePath h.name.ident)
          (h.bindings.countP fun b => ¬s.Reaches b.type settings.baseType)
  /-- A host without one has the unit that it has with such fields left out. -/
  inherited : ∀ gs, generate s (settings.withPolicy .skip) roots = .ok gs →
    ∃ ga, generate s (settings.withPolicy .abort) roots = .ok ga ∧
      ∀ u ∈ gs.units, ∀ h ∈ s.boundHosts, u.hostName = (h.name.modulePath, h.name.ident) →
        h.AllReach s settings.baseType → u ∈ ga.units

theorem filter_warning_eq_nil {ds : List Diagnostic} (h : ∀ d ∈ ds, d.isError = true) :
    ds.filter (fun d => d.severity = .warning) = [] := by
  rw [List.filter_eq_nil_iff]
  intro d hd
  simp [of_decide_eq_true (h d hd)]

section Results

variable {imports : ImportTable} {policy : InvalidFieldPolicy} {host : String} {ds : List FieldDecl}
  {results : List (Option (Except Diagnostic Assignment))}

theorem exists_leftOut (h : List.Forall₂ (Treated imports .emit host) ds results) :
    ∃ fewer, List.Forall₂ (Treated imports .skip host) ds fewer ∧
      assignmentsOf fewer = (assignmentsOf results).filter Assignment.isImported ∧
      (refusalsOf fewer).Sublist (refusalsOf results) := by
  induction h with
  | nil => exact ⟨[], .nil, rfl, .slnil⟩
  | @cons d result ds results htreated _ ih =>
    obtain ⟨fewer, hfewer, hassignments, hrefusals⟩ := ih
    cases hlocal : imports.local? d.type with
    | none =>
      have hleft : typeRef? imports .skip d.type = none := by simp [typeRef?, hlocal]
      have hpath : typeRef? imports .emit d.type = some (.qualified d.type) := by simp [typeRef?, hlocal]
      refine ⟨none :: fewer, .cons (.left hleft) hfewer, ?_, ?_⟩
      · cases htreated with
        | left => exact hassignments
        | refused => exact hassignments
        | assigned href =>
          obtain rfl := Option.some.inj (href.symm.trans hpath)
          simpa [Assignment.isImported] using hassignments
      · cases htreated with
        | left => exact hrefusals
        | refused => exact hrefusals.trans (List.sublist_cons_self _ _)
        | assigned => exact hrefusals
    | some name =>
      have hname : ∀ p, typeRef? imports p d.type = some (.imported name) := by simp [typeRef?, hlocal]
      cases htreated with
      | left hnone =>
        rw [hname] at hnone
        cases hnone
      | refused href hident hcode =>
        obtain rfl := Option.some.inj (href.symm.trans (hname .emit))
        exact ⟨_, .cons (.refused (hname .skip) hident hcode) hfewer, hassignments, hrefusals.cons_cons _⟩
      | assigned href hident htokens =>
        obtain rfl := Option.some.inj (href.symm.trans (hname .emit))
        refine ⟨_, .cons (.assigned (hname .skip) hident htokens) hfewer, ?_, hrefusals⟩
        rw [assignmentsOf_assigned, assignmentsOf_assigned, List.filter_cons_of_pos rfl, hassignments]

end Results

namespace HostGroup

variable {g : HostGroup} {conforms : FieldDecl → Bool} {roots : CrateRoots}

theorem not_givenUp_of_ne {policy : InvalidFieldPolicy} (h : policy ≠ .abort) : ¬g.GivenUp conforms policy :=
  fun hup => h hup.1

theorem Emitted.leftOut {e : Emission} (he : g.Emitted conforms .emit roots e) :
    ∃ e', g.Emitted conforms .skip roots e' ∧ e'.unit = e.unit.map BinderUnit.importedOnly ∧
      e'.diagnostics.Sublist e.diagnostics := by
  cases he with
  | aborted hup => exact absurd hup (not_givenUp_of_ne (by simp))
  | unnameable _ hname =>
    exact ⟨_, .unnameable (not_givenUp_of_ne (by simp)) hname, rfl, List.Sublist.refl _⟩
  | made _ hname htreated =>
    obtain ⟨fewer, hfewer, hassignments, hrefusals⟩ := exists_leftOut htreated
    refine ⟨_, .made (not_givenUp_of_ne (by simp)) hname hfewer, ?_, hrefusals⟩
    simp [unit, BinderUnit.importedOnly, hassignments]

theorem emit_eq_of_conforming (hc : ByType conforms) (hall : ∀ d ∈ g.declarations, conforms d = true)
    (p q : InvalidFieldPolicy) : g.emit conforms p roots = g.emit conforms q roots := by
  have hnone : (g.declarations.countP fun d => !conforms d) = 0 := by
    rw [List.countP_eq_zero]
    intro d hd
    simp [hall d hd]
  have hassign : ∀ d ∈ g.declarations,
      assign g.path (g.imports conforms) p d = assign g.path (g.imports conforms) q d := by
    intro d hd
    have hsome := isSome_local?_imports hc hd
    rw [hall d hd] at hsome
    obtain ⟨name, hname⟩ := Option.isSome_iff_exists.mp hsome
    simp [assign, typeRef?, hname]
  unfold emit
  simp only [hnone, ne_eq, not_true_eq_false, decide_false, Bool.and_false, Bool.false_eq_true, ite_false]
  rw [Attempt.mapM_congr hassign]

end HostGroup

namespace Schema

variable {s : Schema} {settings : Settings} {roots : CrateRoots} {h : Host}

theorem givenUp_abort_iff {base : String} : h.group.GivenUp (s.conforming base) .abort ↔ ¬h.AllReach s base := by
  rw [← conforms_declarations_iff, HostGroup.GivenUp]
  simp

theorem emit_eq_of_allReach (hall : h.AllReach s settings.baseType) (p q : InvalidFieldPolicy) :
    h.group.emit (s.conforming settings.baseType) p roots = h.group.emit (s.conforming settings.baseType) q roots :=
  HostGroup.emit_eq_of_conforming (s.byType_conforming settings.baseType) (conforms_declarations_iff.mpr hall) p q

theorem emission_eq_of_allReach (hall : h.AllReach s settings.baseType) (p q : InvalidFieldPolicy) :
    s.emission (settings.withPolicy p) roots h = s.emission (settings.withPolicy q) roots h := by
  unfold emission
  simp only [baseType_withPolicy, invalidFields_withPolicy, emit_eq_of_allReach hall p q]

theorem generate_eq_of_allReach (hall : ∀ h ∈ s.boundHosts, h.AllReach s settings.baseType)
    (p q : InvalidFieldPolicy) :
    generate s (settings.withPolicy p) roots = generate s (settings.withPolicy q) roots := by
  unfold generate
  rw [s.groupByHost_declarations]
  apply Attempt.foldlM_congr
  intro g group hgroup
  obtain ⟨h, hh, rfl⟩ := List.mem_map.mp hgroup
  rw [Generation.addHost_eq_bind, Generation.addHost_eq_bind]
  exact congrArg (· >>= _) (emit_eq_of_allReach (hall h hh) p q)

/-- Units made under one choice of settings that keep their module names under another leave a host out for its
module name under both. -/
theorem displaced_mono {settings' : Settings} (hh : h ∈ s.boundHosts)
    (hdrafts : ∀ h ∈ s.boundHosts, ∀ m, s.drafts settings roots h m = true → s.drafts settings' roots h m = true)
    (hd : s.displaced settings roots h = true) : s.displaced settings' roots h = true := by
  obtain ⟨before, after, hs⟩ := List.append_of_mem hh
  obtain ⟨m, hm, h', hh', hm'⟩ := (displaced_iff hs).mp hd
  have hmem : h' ∈ s.boundHosts := by rw [hs]; simp [hh']
  exact (displaced_iff hs).mpr ⟨m, hdrafts h hh m hm, h', hh', hdrafts h' hmem m hm'⟩

section LeftOut

variable (hok : ∃ e, h.group.emit (s.conforming settings.baseType) .emit roots = .ok e)

include hok

theorem exists_emission_skip :
    ∃ e', h.group.Emitted (s.conforming settings.baseType) .skip roots e' ∧
      e'.unit = (s.draft? (settings.withPolicy .emit) roots h).map BinderUnit.importedOnly ∧
        e'.diagnostics.Sublist (s.emission (settings.withPolicy .emit) roots h).diagnostics := by
  have hemitted : h.group.Emitted (s.conforming (settings.withPolicy .emit).baseType)
      (settings.withPolicy .emit).invalidFields roots (s.emission (settings.withPolicy .emit) roots h) :=
    emitted_emission hok
  exact hemitted.leftOut

theorem draft?_skip :
    s.draft? (settings.withPolicy .skip) roots h =
      (s.draft? (settings.withPolicy .emit) roots h).map BinderUnit.importedOnly := by
  obtain ⟨e', hemitted, hunit, _⟩ := exists_emission_skip hok
  have hemission : s.emission (settings.withPolicy .skip) roots h = e' := emission_eq_of_emitted hemitted
  rw [draft?, hemission, hunit]

theorem drafts_skip (m : String) :
    s.drafts (settings.withPolicy .skip) roots h m = s.drafts (settings.withPolicy .emit) roots h m := by
  unfold drafts
  rw [draft?_skip hok, Option.any_map]
  rfl

end LeftOut

section AllLeftOut

variable (hok : ∀ h ∈ s.boundHosts, ∃ e, h.group.emit (s.conforming settings.baseType) .emit roots = .ok e)
  (hh : h ∈ s.boundHosts)

include hok hh

theorem displaced_skip :
    s.displaced (settings.withPolicy .skip) roots h = s.displaced (settings.withPolicy .emit) roots h := by
  rw [Bool.eq_iff_iff]
  constructor
  · exact displaced_mono hh fun h' hh' m hm => (drafts_skip (hok h' hh') m).symm.trans hm
  · exact displaced_mono hh fun h' hh' m hm => (drafts_skip (hok h' hh') m).trans hm

theorem kept?_skip :
    s.kept? (settings.withPolicy .skip) roots h =
      (s.kept? (settings.withPolicy .emit) roots h).map BinderUnit.importedOnly := by
  unfold kept?
  rw [displaced_skip hok hh, draft?_skip (hok h hh)]
  split <;> rfl

theorem collisions_skip :
    s.collisions (settings.withPolicy .skip) roots h = s.collisions (settings.withPolicy .emit) roots h := by
  unfold collisions
  rw [displaced_skip hok hh, draft?_skip (hok h hh)]
  cases s.draft? (settings.withPolicy .emit) roots h <;> rfl

theorem reports_skip_sublist :
    (s.reports (settings.withPolicy .skip) roots h).Sublist (s.reports (settings.withPolicy .emit) roots h) := by
  obtain ⟨e', hemitted, _, hdiagnostics⟩ := exists_emission_skip (hok h hh)
  have hemission : s.emission (settings.withPolicy .skip) roots h = e' := emission_eq_of_emitted hemitted
  unfold reports
  rw [collisions_skip hok hh, hemission]
  exact ((List.Sublist.refl _).append hdiagnostics).append (List.Sublist.refl _)

end AllLeftOut

theorem leftOut {ge : Generation} (hge : generate s (settings.withPolicy .emit) roots = .ok ge) :
    ∃ gs, generate s (settings.withPolicy .skip) roots = .ok gs ∧ gs.units = ge.units.map BinderUnit.importedOnly ∧
      gs.diagnostics.Sublist ge.diagnostics := by
  have hok : ∀ h ∈ s.boundHosts, ∃ e, h.group.emit (s.conforming settings.baseType) .emit roots = .ok e :=
    exists_generate_iff.mp ⟨ge, hge⟩
  have hskip : ∃ gs, generate s (settings.withPolicy .skip) roots = .ok gs := by
    rw [exists_generate_iff]
    intro h hh
    obtain ⟨e', hemitted, _⟩ := exists_emission_skip (hok h hh)
    exact ⟨e', HostGroup.emit_eq_ok_iff.mpr hemitted⟩
  obtain ⟨gs, hgs⟩ := hskip
  refine ⟨gs, hgs, ?_, ?_⟩
  · rw [eq_shares_of_generate hge, eq_shares_of_generate hgs, units_shares, units_shares, List.map_filterMap]
    exact List.filterMap_congr fun h hh => kept?_skip hok hh
  · rw [eq_shares_of_generate hge, eq_shares_of_generate hgs, diagnostics_shares, diagnostics_shares]
    exact List.Sublist.flatMap_right _ fun h hh => reports_skip_sublist hok hh

theorem stopped {err : MalformedIdent} {gs : Generation}
    (hge : generate s (settings.withPolicy .emit) roots = .error err)
    (hgs : generate s (settings.withPolicy .skip) roots = .ok gs) :
    ∃ h ∈ s.boundHosts, ∃ b, h.IsStoppedAt s (settings.withPolicy .emit) b err ∧
      ¬s.Reaches b.type settings.baseType := by
  obtain ⟨h, hh, b, hstopped⟩ := stoppedBy_of_generate hge
  refine ⟨h, hh, b, hstopped, fun hreaches => ?_⟩
  obtain ⟨⟨_, hname⟩, hb, _, hident⟩ := hstopped
  have hskip : s.StoppedBy (settings.withPolicy .skip) err :=
    ⟨h, hh, b, ⟨fun haborted => absurd haborted.1 (by simp), hname⟩, hb, .inl hreaches, hident⟩
  exact generate_returns_iff.mp ⟨gs, hgs⟩ err hskip

theorem emission_abort_of_not_allReach (hnot : ¬h.AllReach s settings.baseType) :
    s.emission (settings.withPolicy .abort) roots h =
      ⟨none, [.aborted (memberPath h.name.modulePath h.name.ident)
        (h.bindings.countP fun b => ¬s.Reaches b.type settings.baseType)]⟩ := by
  have hup : h.group.GivenUp (s.conforming settings.baseType) .abort := givenUp_abort_iff.mpr hnot
  have hemitted : s.emission (settings.withPolicy .abort) roots h = _ := emission_eq_of_emitted (.aborted hup)
  have hcount : (h.group.declarations.countP fun d => !s.conforming settings.baseType d) = _ :=
    h.countP_nonconforming s settings.baseType
  rw [hemitted, baseType_withPolicy, hcount]
  rfl

theorem isError_of_mem_emission (hall : h.AllReach s settings.baseType) {d : Diagnostic}
    (hd : d ∈ (s.emission settings roots h).diagnostics) : d.isError = true := by
  rcases s.emitted_or_empty settings roots h with he | he
  · generalize s.emission settings roots h = e at he hd
    cases he with
    | aborted hup =>
      obtain ⟨_, d', hd', hinvalid⟩ := hup
      rw [conforms_declarations_iff.mpr hall d' hd'] at hinvalid
      cases hinvalid
    | unnameable =>
      rw [List.mem_singleton.mp hd]
      rfl
    | made _ _ htreated =>
      obtain ⟨_, _, rfl⟩ := exists_unassignable_of_mem_refusalsOf htreated hd
      rfl
  · rw [he] at hd
    cases hd

theorem filter_reports_abort :
    (s.reports (settings.withPolicy .abort) roots h).filter (fun d => d.severity = .warning) =
      if h.bindings.any fun b => ¬s.Reaches b.type settings.baseType then
        [.aborted (memberPath h.name.modulePath h.name.ident)
          (h.bindings.countP fun b => ¬s.Reaches b.type settings.baseType)]
      else [] := by
  have hiff : (h.bindings.any fun b => ¬s.Reaches b.type settings.baseType) = true ↔
      ¬h.AllReach s settings.baseType := by
    simp [Host.AllReach]
  rw [reports, List.filter_append, List.filter_append, filter_warning_eq_nil fun _ => isError_of_mem_unreached,
    filter_warning_eq_nil fun _ => isError_of_mem_collisions, List.nil_append, List.append_nil]
  by_cases hall : h.AllReach s settings.baseType
  · have hall' : h.AllReach s (settings.withPolicy .abort).baseType := hall
    rw [if_neg (by rwa [hiff, not_not]), filter_warning_eq_nil fun _ => isError_of_mem_emission hall']
  · rw [if_pos (hiff.mpr hall), emission_abort_of_not_allReach hall]
    rfl

theorem givenUp {ga : Generation} (hga : generate s (settings.withPolicy .abort) roots = .ok ga) :
    (∀ u ∈ ga.units, ∀ h ∈ s.boundHosts, u.hostName = (h.name.modulePath, h.name.ident) →
      h.AllReach s settings.baseType) ∧
    ga.diagnostics.filter (fun d => d.severity = .warning) =
      (s.boundHosts.filter fun h => h.bindings.any fun b => ¬s.Reaches b.type settings.baseType).map fun h =>
        .aborted (memberPath h.name.modulePath h.name.ident)
          (h.bindings.countP fun b => ¬s.Reaches b.type settings.baseType) := by
  obtain rfl := eq_shares_of_generate hga
  constructor
  · intro u hu h hh hname
    by_contra hnot
    obtain ⟨hdraft, _⟩ := kept?_eq_some_iff.mp (kept?_of_mem_shares hu hh hname)
    unfold draft? at hdraft
    rw [emission_abort_of_not_allReach hnot] at hdraft
    cases hdraft
  · rw [diagnostics_shares, List.filter_flatMap, ← flatMap_ite_singleton]
    exact List.flatMap_congr fun h _ => filter_reports_abort

theorem exists_abort {gs : Generation} (hgs : generate s (settings.withPolicy .skip) roots = .ok gs) :
    ∃ ga, generate s (settings.withPolicy .abort) roots = .ok ga := by
  rw [exists_generate_iff]
  intro h hh
  by_cases hall : h.AllReach s settings.baseType
  · exact ⟨_, (emit_eq_of_allReach hall .abort .skip).trans (emit_of_generate hgs hh)⟩
  · exact ⟨_, HostGroup.emit_eq_ok_iff.mpr (.aborted (givenUp_abort_iff.mpr hall))⟩

theorem drafts_skip_of_abort {m : String} (hm : s.drafts (settings.withPolicy .abort) roots h m = true) :
    s.drafts (settings.withPolicy .skip) roots h m = true := by
  by_cases hall : h.AllReach s settings.baseType
  · unfold drafts draft? at hm ⊢
    rwa [emission_eq_of_allReach hall .skip .abort]
  · unfold drafts draft? at hm
    rw [emission_abort_of_not_allReach hall] at hm
    cases hm

theorem inherited {gs : Generation} (hgs : generate s (settings.withPolicy .skip) roots = .ok gs) :
    ∃ ga, generate s (settings.withPolicy .abort) roots = .ok ga ∧
      ∀ u ∈ gs.units, ∀ h ∈ s.boundHosts, u.hostName = (h.name.modulePath, h.name.ident) →
        h.AllReach s settings.baseType → u ∈ ga.units := by
  obtain ⟨ga, hga⟩ := exists_abort hgs
  refine ⟨ga, hga, ?_⟩
  intro u hu h hh hname hall
  rw [eq_shares_of_generate hgs] at hu
  obtain ⟨hdraft, hd⟩ := kept?_eq_some_iff.mp (kept?_of_mem_shares hu hh hname)
  have hdraft' : s.draft? (settings.withPolicy .abort) roots h = some u := by
    unfold draft? at hdraft ⊢
    rwa [emission_eq_of_allReach hall .abort .skip]
  -- with hosts given up fewer units are made, so no more of them can displace one
  have hd' : s.displaced (settings.withPolicy .abort) roots h = false := by
    rw [Bool.eq_false_iff] at hd ⊢
    exact fun hyes => hd (displaced_mono hh (fun _ _ _ => drafts_skip_of_abort) hyes)
  rw [eq_shares_of_generate hga, units_shares]
  exact List.mem_filterMap.mpr ⟨h, hh, kept?_eq_some_iff.mpr ⟨hdraft', hd'⟩⟩

end Schema

/-- For every schema and all settings but for the policy, the passes under the three policies compare as told, where
they have results. -/
theorem generate_policiesCompare (s : Schema) (settings : Settings) (roots : CrateRoots) :
    s.PoliciesCompare settings roots where
  same := Schema.generate_eq_of_allReach
  leftOut _ := Schema.leftOut
  stopped _ _ := Schema.stopped
  givenUp _ := Schema.givenUp
  inherited _ := Schema.inherited

def labelScreen (package : String) (bindings : List Binding) : Schema :=
  .ofNodes [.component ⟨⟨"viewbind::ui", "View"⟩, none⟩, .component ⟨⟨"w", "Label"⟩, some "viewbind::ui::View"⟩,
    .host ⟨⟨package, "Main"⟩, bindings⟩]

/-- A field of invalid type that has a malformed name: left out, it does not keep its screen from having a unit; to
be assigned by path, it keeps the whole pass from having a result. -/
theorem malformed_field_stops_emit :
    (generate (labelScreen "app" [⟨"title", "w::Label", 1⟩, ⟨"type ", "std::string::String", 2⟩])
      (Settings.default.withPolicy .skip) (.resolve .none)).map (fun g => g.units.map BinderUnit.hostName) =
        .ok [("app", "Main")] ∧
    (generate (labelScreen "app" [⟨"title", "w::Label", 1⟩, ⟨"type ", "std::string::String", 2⟩])
      (Settings.default.withPolicy .emit) (.resolve .none)).map (fun g => g.units.map BinderUnit.hostName) =
        .error ⟨"type "⟩ := by
  constructor <;> decide +kernel

end HostBinder

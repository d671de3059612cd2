import HostBinder.Proofs.Binder.Clean
import HostBinder.Proofs.Binder.Policies
import Mathlib.Algebra.Ring.Nat
import Mathlib.Data.List.Perm.Subperm

set_option autoImplicit false

/-!
What is left out of the units of a pass, and the reports that account for it. A host can go without a unit for three
reasons, and a field without an assignment for two; each reason has its report, and there are no reports besides.
-/

namespace HostBinder

open Code

def Diagnostic.wholeHost? : Diagnostic → Option String
  | aborted host _ => some host
  | unnameable host => some host
  | moduleTaken _ host => some host
  | _ => none

namespace Host

section Fate

variable (h : Host) (s : Schema) (settings : Settings)

/-- Whether a host has no unit as its name or package is no code. -/
def IsRefused : Prop := ¬h.IsAborted s settings ∧ h.group.isNameable = false

def fieldType? (b : Binding) : Option TypeRef :=
  typeRef? (h.group.imports (s.conforming settings.baseType)) settings.invalidFields b.type

/-- Whether a field is to be assigned but has a name or a type that is no code. -/
def IsUnwritten (b : Binding) : Prop :=
  b.IsDue s settings ∧ (fieldIdent? b.field = .ok none ∨ (h.fieldType? s settings b).bind TypeRef.tokens? = none)

instance : Decidable (h.IsRefused s settings) := inferInstanceAs (Decidable (¬h.IsAborted s settings ∧ _))

instance (b : Binding) : Decidable (h.IsUnwritten s settings b) :=
  inferInstanceAs (Decidable (b.IsDue s settings ∧ (_ ∨ _)))

/-- The assignment of a field, or the report on its having none, in the unit of a host. -/
def outcome (b : Binding) : Except Diagnostic Assignment :=
  match h.fieldType? s settings b with
  | none => .error (.nonconforming b.field h.group.path b.type settings.baseType)
  | some type =>
    if h.IsUnwritten s settings b then .error (.unassignable b.field h.group.path) else .ok ⟨b.field, type, b.id⟩

def fieldReport? (b : Binding) : Option Diagnostic :=
  match h.outcome s settings b with
  | .error d => some d
  | .ok _ => none

end Fate

end Host

def Generation.binds (g : Generation) (h : Host) : Bool :=
  g.units.any fun u => u.hostName = (h.name.modulePath, h.name.ident)

/-- How the reports of a pass account for what it leaves out. -/
structure Generation.Accounts (g : Generation) (s : Schema) (settings : Settings) (roots : CrateRoots) : Prop where
  errors : errorCount g.diagnostics =
    (s.boundHosts.map fun h => h.bindings.countP fun b => ¬s.Reaches b.type settings.baseType).sum +
      s.boundHosts.countP (fun h => h.IsRefused s settings) + s.boundHosts.countP (s.displaced settings roots) +
      ((s.boundHosts.filter fun h => h.IsTried s settings).map fun h =>
        h.bindings.countP fun b => h.IsUnwritten s settings b).sum
  /-- The hosts without a unit are reported as a whole, once each and in order, and no others are. -/
  hosts : g.diagnostics.filterMap Diagnostic.wholeHost? =
    (s.boundHosts.filter fun h => !g.binds h).map fun h => memberPath h.name.modulePath h.name.ident
  assigned : ∀ u ∈ g.units, ∀ h ∈ s.boundHosts, u.hostName = (h.name.modulePath, h.name.ident) →
    u.assignments = h.bindings.filterMap fun b => (h.outcome s settings b).toOption
  /-- The fields without an assignment in the unit of their host have reports of their own. -/
  fields : ((s.boundHosts.filter g.binds).flatMap fun h => h.bindings.filterMap (h.fieldReport? s settings)).Subperm
    g.diagnostics
  wellFormed : ∀ err, ¬s.StoppedBy settings err

namespace Host

variable {s : Schema} {settings : Settings} {roots : CrateRoots} {h : Host} {b : Binding} {bs : List Binding}
  {results : List (Option (Except Diagnostic Assignment))}

inductive Settled (s : Schema) (settings : Settings) (h : Host) (b : Binding) :
    Option (Except Diagnostic Assignment) → Prop
  | left (hreaches : ¬s.Reaches b.type settings.baseType) (hwritten : ¬h.IsUnwritten s settings b)
      (houtcome : h.outcome s settings b = .error (.nonconforming b.field h.group.path b.type settings.baseType)) :
      Settled s settings h b none
  | refused {d : Diagnostic} (hwritten : h.IsUnwritten s settings b) (houtcome : h.outcome s settings b = .error d) :
      Settled s settings h b (some (.error d))
  | assigned {a : Assignment} (hwritten : ¬h.IsUnwritten s settings b) (houtcome : h.outcome s settings b = .ok a) :
      Settled s settings h b (some (.ok a))

theorem settled_of_treated {result : Option (Except Diagnostic Assignment)} (hb : b ∈ h.bindings)
    (ht : Treated (h.group.imports (s.conforming settings.baseType)) settings.invalidFields h.group.path
      ⟨h.name.modulePath, h.name.ident, b.field, b.type, b.id⟩ result) : Settled s settings h b result := by
  have hdue : b.IsDue s settings ↔ ∃ type, h.fieldType? s settings b = some type := isDue_iff hb
  cases ht with
  | left hnone =>
    have htype : h.fieldType? s settings b = none := hnone
    have hnot : ¬b.IsDue s settings := by
      rw [hdue, htype]
      simp
    refine .left (fun hreaches => hnot (.inl hreaches)) (fun hx => hnot hx.1) ?_
    simp [outcome, htype]
  | @refused type ident href hident hcode =>
    have htype : h.fieldType? s settings b = some type := href
    have hunwritten : h.IsUnwritten s settings b := by
      refine ⟨hdue.mpr ⟨type, htype⟩, ?_⟩
      rw [htype]
      rcases hcode with rfl | hcode
      · exact .inl hident
      · exact .inr hcode
    refine .refused hunwritten ?_
    simp [outcome, htype, hunwritten]
  | @assigned type ident tokens href hident htokens =>
    have htype : h.fieldType? s settings b = some type := href
    have hident' : fieldIdent? b.field = .ok (some ident) := hident
    have hwritten : ¬h.IsUnwritten s settings b := by
      intro hx
      obtain ⟨_, hx⟩ := hx
      rw [htype, hident'] at hx
      simp [htokens] at hx
    refine .assigned hwritten ?_
    simp [outcome, htype, hwritten]

theorem forall₂_settled (hbs : ∀ b ∈ bs, b ∈ h.bindings)
    (ht : List.Forall₂ (fun b result =>
      Treated (h.group.imports (s.conforming settings.baseType)) settings.invalidFields h.group.path
        ⟨h.name.modulePath, h.name.ident, b.field, b.type, b.id⟩ result) bs results) :
    List.Forall₂ (h.Settled s settings) bs results := by
  induction ht with
  | nil => exact .nil
  | cons ht _ ih =>
    obtain ⟨hb, hbs⟩ := List.forall_mem_cons.mp hbs
    exact .cons (settled_of_treated hb ht) (ih hbs)

theorem assignmentsOf_settled (hs : List.Forall₂ (h.Settled s settings) bs results) :
    assignmentsOf results = bs.filterMap fun b => (h.outcome s settings b).toOption := by
  induction hs with
  | nil => rfl
  | cons hsettled _ ih =>
    cases hsettled with
    | left _ _ houtcome => simp [houtcome, ih, Except.toOption]
    | refused _ houtcome => simp [houtcome, ih, Except.toOption]
    | assigned _ houtcome => simp [houtcome, ih, Except.toOption]

theorem length_refusalsOf_settled (hs : List.Forall₂ (h.Settled s settings) bs results) :
    (refusalsOf results).length = bs.countP fun b => h.IsUnwritten s settings b := by
  induction hs with
  | nil => rfl
  | cons hsettled _ ih =>
    cases hsettled with
    | left _ hwritten => simp [hwritten, ih]
    | refused hwritten => simp [hwritten, ih]
    | assigned hwritten => simp [hwritten, ih]

/-- A field without an assignment is reported for its type or refused. The reports on types come first and may be on
fields that are assigned or refused as well. -/
theorem fieldReports_subperm_of_settled (hs : List.Forall₂ (h.Settled s settings) bs results) :
    (bs.filterMap (h.fieldReport? s settings)).Subperm
      (((bs.filter fun b => ¬s.Reaches b.type settings.baseType).map fun b =>
        .nonconforming b.field h.group.path b.type settings.baseType) ++ refusalsOf results) := by
  induction hs with
  | nil => exact List.Subperm.refl []
  | @cons b result bs results hsettled _ ih =>
    have hmore := List.Subperm.trans ih (List.Sublist.append
      (((List.sublist_cons_self b bs).filter fun b => ¬s.Reaches b.type settings.baseType).map fun b =>
        .nonconforming b.field h.group.path b.type settings.baseType) (List.Sublist.refl (refusalsOf results))).subperm
    cases hsettled with
    | left hreaches _ houtcome =>
      have hreport : h.fieldReport? s settings b =
          some (.nonconforming b.field h.group.path b.type settings.baseType) := by
        simp [fieldReport?, houtcome]
      rw [List.filterMap_cons_some hreport, List.filter_cons_of_pos (by simpa using hreaches), List.map_cons,
        List.cons_append, refusalsOf_left]
      exact (List.subperm_cons _).mpr ih
    | @refused d _ houtcome =>
      have hreport : h.fieldReport? s settings b = some d := by
        rw [fieldReport?, houtcome]
      rw [List.filterMap_cons_some hreport, refusalsOf_refused]
      exact ((List.subperm_cons _).mpr hmore).trans List.perm_middle.symm.subperm
    | assigned _ houtcome =>
      have hreport : h.fieldReport? s settings b = none := by
        rw [fieldReport?, houtcome]
      rwa [List.filterMap_cons_none hreport, refusalsOf_assigned]

end Host

namespace Schema

variable {s : Schema} {settings : Settings} {roots : CrateRoots} {h : Host}

structure Made (s : Schema) (settings : Settings) (roots : CrateRoots) (h : Host) (u : BinderUnit) : Prop where
  draft : s.draft? settings roots h = some u
  tried : h.IsTried s settings
  assignments : u.assignments = h.bindings.filterMap fun b => (h.outcome s settings b).toOption
  refused : errorCount (s.emission settings roots h).diagnostics =
    h.bindings.countP fun b => h.IsUnwritten s settings b
  fieldsOnly : (s.emission settings roots h).diagnostics.filterMap Diagnostic.wholeHost? = []
  fields : (h.bindings.filterMap (h.fieldReport? s settings)).Subperm
    (h.unreached s settings.baseType ++ (s.emission settings roots h).diagnostics)

theorem emission_cases
    (hok : ∃ e, h.group.emit (s.conforming settings.baseType) settings.invalidFields roots = .ok e) :
    (h.IsAborted s settings ∧ ∃ n, s.emission settings roots h = ⟨none, [.aborted h.group.path n]⟩) ∨
      (h.IsRefused s settings ∧ s.emission settings roots h = ⟨none, [.unnameable h.group.path]⟩) ∨
        ∃ u, s.Made settings roots h u := by
  have hemitted := emitted_emission hok
  generalize he : s.emission settings roots h = e at hemitted
  cases hemitted with
  | aborted hup => exact .inl ⟨Host.isAborted_iff.mpr hup, _, rfl⟩
  | unnameable hup hname => exact .inr (.inl ⟨⟨mt Host.isAborted_iff.mp hup, hname⟩, rfl⟩)
  | @made results hup hname htreated =>
    have hsettled := Host.forall₂_settled (fun _ hb => hb) (List.forall₂_map_left_iff.mp htreated)
    have hrefusals : ∀ d ∈ refusalsOf results, d.isError = true ∧ d.wholeHost? = none := by
      intro d hd
      obtain ⟨_, _, rfl⟩ := exists_unassignable_of_mem_refusalsOf htreated hd
      exact ⟨rfl, rfl⟩
    refine .inr (.inr ⟨h.group.unit (s.conforming settings.baseType) roots (assignmentsOf results), ?_,
      ⟨mt Host.isAborted_iff.mp hup, hname⟩, Host.assignmentsOf_settled hsettled, ?_, ?_, ?_⟩)
    · rw [draft?, he]
    · rw [he, ← Host.length_refusalsOf_settled hsettled]
      exact List.countP_eq_length.mpr fun d hd => (hrefusals d hd).1
    · rw [he]
      exact List.filterMap_eq_nil_iff.mpr fun d hd => (hrefusals d hd).2
    · rw [he]
      exact Host.fieldReports_subperm_of_settled hsettled

theorem collisions_of_draft {u : BinderUnit} (hu : s.draft? settings roots h = some u) :
    s.collisions settings roots h =
      if s.displaced settings roots h then [.moduleTaken u.moduleName h.group.path] else [] := by
  obtain ⟨hpackage, hhost⟩ := hostName_of_draft? hu
  have hpath : u.hostPath = h.group.path := by rw [BinderUnit.hostPath, hpackage, hhost]; rfl
  rw [collisions, hu, ← hpath]
  rfl

theorem displaced_of_no_draft (hnone : s.draft? settings roots h = none) : s.displaced settings roots h = false := by
  rw [displaced, hnone]
  rfl

theorem collisions_of_no_draft (hnone : s.draft? settings roots h = none) : s.collisions settings roots h = [] := by
  rw [collisions, displaced_of_no_draft hnone]
  rfl

section Reports

variable (hok : ∃ e, h.group.emit (s.conforming settings.baseType) settings.invalidFields roots = .ok e)

include hok

theorem errorCount_reports :
    errorCount (s.reports settings roots h) =
      (h.bindings.countP fun b => ¬s.Reaches b.type settings.baseType) +
        (if h.IsRefused s settings then 1 else 0) + (if s.displaced settings roots h then 1 else 0) +
        (if h.IsTried s settings then h.bindings.countP fun b => h.IsUnwritten s settings b else 0) := by
  have hunreached : errorCount (h.unreached s settings.baseType) =
      h.bindings.countP fun b => ¬s.Reaches b.type settings.baseType := by
    rw [errorCount, List.countP_eq_length.mpr fun _ => isError_of_mem_unreached, Host.unreached, List.length_map,
      List.countP_eq_length_filter]
  rw [reports, errorCount_append, errorCount_append, hunreached]
  rcases emission_cases hok with ⟨haborted, n, he⟩ | ⟨hrefused, he⟩ | ⟨u, hmade⟩
  · have hdraft : s.draft? settings roots h = none := by rw [draft?, he]
    rw [he, collisions_of_no_draft hdraft, displaced_of_no_draft hdraft, if_neg fun hx => hx.1 haborted,
      if_neg Bool.false_ne_true, if_neg fun hx => hx.1 haborted]
    rfl
  · have hdraft : s.draft? settings roots h = none := by rw [draft?, he]
    have htried : ¬h.IsTried s settings := fun hx => Bool.false_ne_true (hrefused.2.symm.trans hx.2)
    rw [he, collisions_of_no_draft hdraft, displaced_of_no_draft hdraft, if_pos hrefused,
      if_neg Bool.false_ne_true, if_neg htried]
    rfl
  · have hrefused : ¬h.IsRefused s settings := fun hx => Bool.false_ne_true (hx.2.symm.trans hmade.tried.2)
    have hcollisions : errorCount (s.collisions settings roots h) =
        if s.displaced settings roots h then 1 else 0 := by
      rw [collisions_of_draft hmade.draft]
      split <;> rfl
    rw [hmade.refused, hcollisions, if_neg hrefused, if_pos hmade.tried]
    omega

theorem filterMap_wholeHost?_reports :
    (s.reports settings roots h).filterMap Diagnostic.wholeHost? =
      if (s.kept? settings roots h).isNone then [h.group.path] else [] := by
  have hunreached : (h.unreached s settings.baseType).filterMap Diagnostic.wholeHost? = [] := by
    rw [List.filterMap_eq_nil_iff]
    intro d hd
    obtain ⟨b, _, rfl⟩ := List.mem_map.mp hd
    rfl
  rw [reports, List.filterMap_append, List.filterMap_append, hunreached, List.nil_append]
  rcases emission_cases hok with ⟨_, n, he⟩ | ⟨_, he⟩ | ⟨u, hmade⟩
  · have hdraft : s.draft? settings roots h = none := by rw [draft?, he]
    rw [he, collisions_of_no_draft hdraft, kept?, hdraft, ite_self]
    rfl
  · have hdraft : s.draft? settings roots h = none := by rw [draft?, he]
    rw [he, collisions_of_no_draft hdraft, kept?, hdraft, ite_self]
    rfl
  · rw [hmade.fieldsOnly, collisions_of_draft hmade.draft, kept?, hmade.draft]
    cases s.displaced settings roots h <;> rfl

end Reports

theorem binds_shares (hh : h ∈ s.boundHosts) :
    (s.shares settings roots s.boundHosts).binds h = (s.kept? settings roots h).isSome := by
  rw [Bool.eq_iff_iff, Generation.binds, List.any_eq_true]
  constructor
  · intro hx
    obtain ⟨u, hu, hname⟩ := hx
    rw [kept?_of_mem_shares hu hh (of_decide_eq_true hname)]
    rfl
  · intro hsome
    obtain ⟨u, hkept⟩ := Option.isSome_iff_exists.mp hsome
    obtain ⟨hpackage, hhost⟩ := hostName_of_draft? (kept?_eq_some_iff.mp hkept).1
    exact ⟨u, List.mem_filterMap.mpr ⟨h, hh, hkept⟩, decide_eq_true (Prod.ext hpackage hhost)⟩

theorem made_of_kept? (hok : ∃ e, h.group.emit (s.conforming settings.baseType) settings.invalidFields roots = .ok e)
    {u : BinderUnit} (hkept : s.kept? settings roots h = some u) : s.Made settings roots h u := by
  have hdraft := (kept?_eq_some_iff.mp hkept).1
  rcases emission_cases hok with ⟨_, n, he⟩ | ⟨_, he⟩ | ⟨v, hmade⟩
  · rw [draft?, he] at hdraft
    cases hdraft
  · rw [draft?, he] at hdraft
    cases hdraft
  · obtain rfl : v = u := Option.some.inj (hmade.draft.symm.trans hdraft)
    exact hmade

theorem fieldReports_subperm_reports {u : BinderUnit} (hmade : s.Made settings roots h u) :
    (h.bindings.filterMap (h.fieldReport? s settings)).Subperm (s.reports settings roots h) :=
  hmade.fields.trans (List.sublist_append_left _ _).subperm

end Schema

theorem sum_map_tally {α : Type} (p q r : α → Prop) [DecidablePred p] [DecidablePred q] [DecidablePred r]
    (f g : α → Nat) (xs : List α) :
    (xs.map fun x => f x + (if p x then 1 else 0) + (if q x then 1 else 0) + if r x then g x else 0).sum =
      (xs.map f).sum + xs.countP (fun x => p x) + xs.countP (fun x => q x) +
        ((xs.filter fun x => r x).map g).sum := by
  induction xs with
  | nil => rfl
  | cons x xs ih =>
    simp only [List.map_cons, List.sum_cons, List.countP_cons, List.filter_cons, ih, decide_eq_true_eq]
    by_cases hr : r x
    · simp only [hr, if_true, List.map_cons, List.sum_cons]
      omega
    · simp only [hr, if_false]
      omega

theorem subperm_flatMap_filter {α β : Type} {p : α → Bool} {f g : α → List β} {xs : List α}
    (h : ∀ x ∈ xs, p x = true → (f x).Subperm (g x)) : ((xs.filter p).flatMap f).Subperm (xs.flatMap g) := by
  induction xs with
  | nil => exact List.Subperm.refl []
  | cons x xs ih =>
    obtain ⟨hx, hxs⟩ := List.forall_mem_cons.mp h
    rw [List.flatMap_cons]
    cases hp : p x with
    | false =>
      rw [List.filter_cons_of_neg (by simp [hp])]
      exact (ih hxs).trans (List.sublist_append_right _ _).subperm
    | true =>
      rw [List.filter_cons_of_pos hp, List.flatMap_cons]
      exact (hx hp).append (ih hxs)

/-- Where a pass has a result, its reports account for what it leaves out; where it has none, the name of a field to
assign is a malformed identifier. -/
theorem generate_accounts (s : Schema) (settings : Settings) (roots : CrateRoots) :
    match generate s settings roots with
    | .ok g => g.Accounts s settings roots
    | .error err => s.StoppedBy settings err := by
  cases hg : generate s settings roots with
  | error err => exact Schema.stoppedBy_of_generate hg
  | ok g =>
    have hok : ∀ h ∈ s.boundHosts,
        ∃ e, h.group.emit (s.conforming settings.baseType) settings.invalidFields roots = .ok e :=
      exists_generate_iff.mp ⟨g, hg⟩
    obtain rfl := eq_shares_of_generate hg
    constructor
    · have htally := sum_map_tally (fun h => h.IsRefused s settings) (fun h => s.displaced settings roots h = true)
        (fun h => h.IsTried s settings) (fun h => h.bindings.countP fun b => ¬s.Reaches b.type settings.baseType)
        (fun h => h.bindings.countP fun b => h.IsUnwritten s settings b) s.boundHosts
      simp only [Bool.decide_eq_true] at htally
      rw [Schema.diagnostics_shares, errorCount, List.countP_flatMap, ← htally]
      congr 1
      exact List.map_congr_left fun h hh => Schema.errorCount_reports (hok h hh)
    · have hunbound : ∀ h ∈ s.boundHosts, (s.reports settings roots h).filterMap Diagnostic.wholeHost? =
          if !(s.shares settings roots s.boundHosts).binds h then [h.group.path] else [] := by
        intro h hh
        rw [Schema.filterMap_wholeHost?_reports (hok h hh), Schema.binds_shares hh, Option.not_isSome]
      rw [Schema.diagnostics_shares, List.filterMap_flatMap, List.flatMap_congr hunbound, flatMap_ite_singleton]
      rfl
    · intro u hu h hh hname
      exact (Schema.made_of_kept? (hok h hh) (Schema.kept?_of_mem_shares hu hh hname)).assignments
    · rw [Schema.diagnostics_shares]
      apply subperm_flatMap_filter
      intro h hh hbinds
      rw [Schema.binds_shares hh] at hbinds
      obtain ⟨u, hkept⟩ := Option.isSome_iff_exists.mp hbinds
      exact Schema.fieldReports_subperm_reports (Schema.made_of_kept? (hok h hh) hkept)
    · exact generate_returns_iff.mp ⟨_, hg⟩

/-- The name of a field that is to be assigned can keep a pass from having a result, and so from reporting the field
as one that cannot be assigned. -/
theorem malformed_field_unreported :
    (generate (labelScreen "app" [⟨"title", "w::Label", 1⟩, ⟨"type ", "w::Label", 2⟩]) .default
      (.resolve .none)).map (fun g => errorCount g.diagnostics) = .error ⟨"type "⟩ := by
  decide +kernel

end HostBinder

import HostBinder.Proofs.Binder.Independence

set_option autoImplicit false

/-!
What a pass tells while it runs. The reports among its events are its diagnostics, the other events are one for each
of its units, and the hosts come in their turn: all reports on a host, then its unit, then the next host.
-/

namespace HostBinder

open Code

/-- What a listener gets of an event: its level, the part of the program it comes from, and its fields. -/
def Event.record (e : Event) : EventLevel × String × List (String × FieldValue) := (e.level, e.source, e.fields)

def Event.isReport (e : Event) : Bool := e.source = "viewbind::build"

def Diagnostic.record (d : Diagnostic) : EventLevel × String × List (String × FieldValue) :=
  (match d.severity with
    | .error => .error
    | .warning => .warn,
    "viewbind::build", [("message", .text d.message)])

namespace BinderUnit

def record (u : BinderUnit) : EventLevel × String × List (String × FieldValue) :=
  (.debug, "viewbind_build",
    [("message", .text "binder generated"), ("unit", .text u.registeredName),
      ("assignments", .number u.assignments.length)])

def event (u : BinderUnit) : Event := .binderGenerated u.registeredName u.assignments.length

end BinderUnit

def Event.Names (h : Host) : Event → Prop
  | diagnosed d => d.host? = some (memberPath h.name.modulePath h.name.ident)
  | binderGenerated unit _ => unit = unitName (memberPath h.name.modulePath h.name.ident)
  | _ => False

/-- Events, each with the host that it is about, in the order in which a pass tells them. -/
structure Schema.InTurn (s : Schema) (settings : Settings) (roots : CrateRoots) (told : List (Host × Event)) :
    Prop where
  named : ∀ t ∈ told, t.1 ∈ s.boundHosts ∧ t.2.Names t.1
  /-- About a host there are its reports and behind them its unit, if it has one. -/
  own : ∀ h ∈ s.boundHosts, (told.filter fun t => t.1 = h).map Prod.snd =
    (s.reports settings roots h).map .diagnosed ++ (s.kept? settings roots h).toList.map BinderUnit.event
  /-- Of two events about one host the first is a report, and hosts come in the order of their paths. -/
  order : told.Pairwise fun a b => (a.1 = b.1 ∧ a.2.isReport = true) ∨ a.1.name.path < b.1.name.path

/-- The events of a pass mirror its result. -/
structure Generation.Mirrored (g : Generation) (s : Schema) (settings : Settings) (roots : CrateRoots) : Prop where
  reports : (g.events.filter Event.isReport).map Event.record = g.diagnostics.map Diagnostic.record
  units : (g.events.filter fun e => !e.isReport).map Event.record = g.units.map BinderUnit.record
  turns : ∃ told : List (Host × Event), told.map Prod.snd = g.events ∧ s.InTurn settings roots told

@[simp] theorem Event.isReport_diagnosed (d : Diagnostic) : (Event.diagnosed d).isReport = true := rfl

@[simp] theorem BinderUnit.isReport_event (u : BinderUnit) : u.event.isReport = false := by
  simp [event, Event.isReport, Event.source]

theorem Event.record_diagnosed (d : Diagnostic) : (Event.diagnosed d).record = d.record := by
  have hlevel : (Event.diagnosed d).level = if d.isError then .error else .warn := rfl
  rw [record, hlevel, Diagnostic.record, Diagnostic.isError]
  cases d.severity <;> rfl

theorem BinderUnit.record_event (u : BinderUnit) : u.event.record = u.record := rfl

namespace Schema

variable {s : Schema} {settings : Settings} {roots : CrateRoots} {h : Host} {hs : List Host}

theorem boundHosts_paths_increase (s : Schema) : s.boundHosts.Pairwise fun a b => a.name.path < b.name.path := by
  rw [boundHosts_eq_filterMap, List.pairwise_filterMap]
  refine s.nodes.increasing.imp_of_mem fun {e e'} he he' hlt h hhost h' hhost' => ?_
  rwa [← key_of_boundHost? he hhost, ← key_of_boundHost? he' hhost']

theorem events_eq (s : Schema) (settings : Settings) (roots : CrateRoots) (h : Host) :
    s.events settings roots h =
      (s.reports settings roots h).map .diagnosed ++ (s.kept? settings roots h).toList.map BinderUnit.event := rfl

theorem filter_isReport_events :
    (s.events settings roots h).filter Event.isReport = (s.reports settings roots h).map .diagnosed := by
  rw [events_eq, List.filter_append, List.filter_eq_self.mpr (by simp), List.filter_eq_nil_iff.mpr (by simp),
    List.append_nil]

theorem filter_not_isReport_events :
    ((s.events settings roots h).filter fun e => !e.isReport) =
      (s.kept? settings roots h).toList.map BinderUnit.event := by
  rw [events_eq, List.filter_append, List.filter_eq_nil_iff.mpr (by simp), List.filter_eq_self.mpr (by simp),
    List.nil_append]

theorem records_of_reports (hs : List Host) :
    ((s.shares settings roots hs).events.filter Event.isReport).map Event.record =
      (s.shares settings roots hs).diagnostics.map Diagnostic.record := by
  simp only [events_shares, diagnostics_shares, List.filter_flatMap, List.map_flatMap, filter_isReport_events,
    List.map_map, Function.comp_def, Event.record_diagnosed]

theorem records_of_units (hs : List Host) :
    ((s.shares settings roots hs).events.filter fun e => !e.isReport).map Event.record =
      (s.shares settings roots hs).units.map BinderUnit.record := by
  simp only [events_shares, units_shares, List.filter_flatMap, List.map_flatMap, filter_not_isReport_events,
    List.filterMap_eq_flatMap_toList, List.map_map, Function.comp_def, BinderUnit.record_event]

def told (s : Schema) (settings : Settings) (roots : CrateRoots) (hs : List Host) : List (Host × Event) :=
  hs.flatMap fun h => (s.events settings roots h).map (h, ·)

theorem map_snd_told (hs : List Host) :
    (s.told settings roots hs).map Prod.snd = (s.shares settings roots hs).events := by
  simp only [told, events_shares, List.map_flatMap, List.map_map, Function.comp_def, List.map_id']

theorem mem_told {t : Host × Event} :
    t ∈ s.told settings roots hs ↔ t.1 ∈ hs ∧ t.2 ∈ s.events settings roots t.1 := by
  rw [told, List.mem_flatMap]
  constructor
  · intro hx
    obtain ⟨h, hh, ht⟩ := hx
    obtain ⟨e, he, rfl⟩ := List.mem_map.mp ht
    exact ⟨hh, he⟩
  · intro hx
    exact ⟨t.1, hx.1, List.mem_map.mpr ⟨t.2, hx.2, rfl⟩⟩

theorem filter_told (hnodup : hs.Nodup) (hh : h ∈ hs) :
    ((s.told settings roots hs).filter fun t => t.1 = h).map Prod.snd = s.events settings roots h := by
  obtain ⟨before, after, rfl⟩ := List.append_of_mem hh
  rw [List.nodup_middle, List.nodup_cons, List.mem_append, not_or] at hnodup
  have hothers : ∀ hs' : List Host, h ∉ hs' → ((s.told settings roots hs').filter fun t => t.1 = h) = [] := by
    intro hs' hnot
    rw [List.filter_eq_nil_iff]
    intro t ht heq
    exact hnot (of_decide_eq_true heq ▸ (mem_told.mp ht).1)
  have hown : (((s.events settings roots h).map (h, ·)).filter fun t => t.1 = h) =
      (s.events settings roots h).map (h, ·) := by
    rw [List.filter_eq_self]
    intro t ht
    obtain ⟨e, _, rfl⟩ := List.mem_map.mp ht
    exact decide_eq_true rfl
  have hsplit : s.told settings roots (before ++ h :: after) = s.told settings roots before ++
      ((s.events settings roots h).map (h, ·) ++ s.told settings roots after) := by
    simp [told]
  rw [hsplit, List.filter_append, List.filter_append, hothers before hnodup.1.1, hothers after hnodup.1.2, hown,
    List.nil_append, List.append_nil, List.map_map]
  exact List.map_id _

theorem names_of_mem_events {e : Event} (he : e ∈ s.events settings roots h) : e.Names h := by
  have hconcerns : (s.shares settings roots [h]).Concerns [h] := s.shares_concerns [h]
  rw [events_eq, List.mem_append] at he
  rcases he with he | he
  · obtain ⟨d, hd, rfl⟩ := List.mem_map.mp he
    obtain ⟨h', hh', hname⟩ := hconcerns.diagnostics d (by simpa using hd)
    obtain rfl := List.mem_singleton.mp hh'
    exact hname
  · obtain ⟨u, hu, rfl⟩ := List.mem_map.mp he
    obtain ⟨h', hh', hname⟩ := hconcerns.units u (List.mem_filterMap.mpr ⟨h, by simp, Option.mem_toList.mp hu⟩)
    obtain rfl := List.mem_singleton.mp hh'
    obtain ⟨hpackage, hhost⟩ := Prod.mk.inj hname
    rw [BinderUnit.event, Event.Names, BinderUnit.registeredName, BinderUnit.hostPath, hpackage, hhost]

theorem pairwise_events : (s.events settings roots h).Pairwise fun a _ => a.isReport = true := by
  rw [events_eq, List.pairwise_append]
  refine ⟨?_, ?_, ?_⟩
  · rw [List.pairwise_map]
    exact List.pairwise_of_forall fun _ _ => rfl
  · cases s.kept? settings roots h <;> simp
  · intro a ha _ _
    obtain ⟨d, _, rfl⟩ := List.mem_map.mp ha
    rfl

theorem inTurn_told (s : Schema) (settings : Settings) (roots : CrateRoots) :
    s.InTurn settings roots (s.told settings roots s.boundHosts) where
  named t ht := ⟨(mem_told.mp ht).1, names_of_mem_events (mem_told.mp ht).2⟩
  own h hh := by
    have hnodup : s.boundHosts.Nodup := s.boundHosts_names_differ.imp fun hne heq => hne (congrArg Host.name heq)
    rw [filter_told hnodup hh, events_eq]
  order := by
    rw [told, List.pairwise_flatMap]
    constructor
    · intro h _
      rw [List.pairwise_map]
      exact pairwise_events.imp fun hreport => .inl ⟨rfl, hreport⟩
    · refine s.boundHosts_paths_increase.imp fun {h h'} hlt t ht t' ht' => .inr ?_
      obtain ⟨_, _, rfl⟩ := List.mem_map.mp ht
      obtain ⟨_, _, rfl⟩ := List.mem_map.mp ht'
      exact hlt

end Schema

/-- The events of a pass mirror its result: the reports told are the diagnostics, the other events its units, and hosts
come one after the other with the unit of each behind the reports on it. A pass without a result has met a field whose
name makes a malformed identifier. -/
theorem generate_mirrored (s : Schema) (settings : Settings) (roots : CrateRoots) :
    match generate s settings roots with
    | .ok g => g.Mirrored s settings roots
    | .error err => s.StoppedBy settings err := by
  cases hg : generate s settings roots with
  | error err => exact Schema.stoppedBy_of_generate hg
  | ok g =>
    obtain rfl := eq_shares_of_generate hg
    exact {
      reports := Schema.records_of_reports s.boundHosts
      units := Schema.records_of_units s.boundHosts
      turns := ⟨_, Schema.map_snd_told s.boundHosts, s.inTurn_told settings roots⟩ }

end HostBinder

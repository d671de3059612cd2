import HostBinder.Proofs.Binder.Publishing

set_option autoImplicit false

namespace HostBinder

namespace Publication

variable {directory index : String} {files : FileTree} {p₀ p p' q : Publication} {d : Diagnostic} {u : BinderUnit}
  {us : List BinderUnit}

structure Sheds (p₀ : Publication) (d : Diagnostic) (p p' : Publication) : Prop where
  files : p'.files = p.files
  written : p'.written = p.written
  diagnostics : ∃ later, p.diagnostics = p₀.diagnostics ++ d :: later ∧ p'.diagnostics = p₀.diagnostics ++ later
  events : ∃ later, p.events = p₀.events ++ .diagnosed d :: later ∧ p'.events = p₀.events ++ later

theorem sheds_report (p : Publication) (d : Diagnostic) : Sheds p d (p.report d) p where
  files := rfl
  written := rfl
  diagnostics := ⟨[], rfl, (List.append_nil _).symm⟩
  events := ⟨[], rfl, (List.append_nil _).symm⟩

namespace Sheds

theorem report (h : Sheds p₀ d p p') (e : Diagnostic) : Sheds p₀ d (p.report e) (p'.report e) where
  files := h.files
  written := h.written
  diagnostics := by
    obtain ⟨later, hp, hp'⟩ := h.diagnostics
    exact ⟨later ++ [e], by simp [Publication.report, hp], by simp [Publication.report, hp']⟩
  events := by
    obtain ⟨later, hp, hp'⟩ := h.events
    exact ⟨later ++ [.diagnosed e], by simp [Publication.report, hp], by simp [Publication.report, hp']⟩

theorem addUnit (h : Sheds p₀ d p p') (hq : p.addUnit directory u = .ok q) :
    ∃ q', p'.addUnit directory u = .ok q' ∧ Sheds p₀ d q q' := by
  obtain ⟨text, hrender⟩ := exists_render_of_addUnit hq
  cases hw : p.files.write (u.pathIn directory) text with
  | ok files =>
    have hw' := h.files ▸ hw
    rw [addUnit_of_write hrender hw, Except.ok.injEq] at hq
    subst hq
    refine ⟨_, addUnit_of_write hrender hw', rfl, by simp [h.written], h.diagnostics, ?_⟩
    obtain ⟨later, hp, hp'⟩ := h.events
    exact ⟨later ++ [.binderWritten u.registeredName (u.pathIn directory)], by simp [hp], by simp [hp']⟩
  | error reason =>
    have hw' := h.files ▸ hw
    rw [addUnit_of_write_error hrender hw, Except.ok.injEq] at hq
    subst hq
    exact ⟨_, addUnit_of_write_error hrender hw', h.report _⟩

theorem foldlM (h : Sheds p₀ d p p') (hq : us.foldlM (Publication.addUnit directory) p = .ok q) :
    ∃ q', us.foldlM (Publication.addUnit directory) p' = .ok q' ∧ Sheds p₀ d q q' := by
  induction us generalizing p p' with
  | nil =>
    rw [List.foldlM_nil, Attempt.pure_eq_ok_iff] at hq
    subst hq
    exact ⟨p', rfl, h⟩
  | cons u us ih =>
    rw [List.foldlM_cons, Attempt.bind_eq_ok_iff] at hq
    obtain ⟨p₁, hu, hrest⟩ := hq
    obtain ⟨p₁', hu', h₁⟩ := h.addUnit hu
    obtain ⟨q', hrest', hq'⟩ := ih h₁ hrest
    exact ⟨q', by rw [List.foldlM_cons, hu']; exact hrest', hq'⟩

theorem addIndex (h : Sheds p₀ d p p') : Sheds p₀ d (p.addIndex directory index) (p'.addIndex directory index) := by
  cases hw : p.files.write (Files.joinPath directory index) (indexText p.written) with
  | ok files =>
    have hw' : p'.files.write (Files.joinPath directory index) (indexText p'.written) = .ok files := by
      rw [h.files, h.written, hw]
    rw [addIndex_of_write hw, addIndex_of_write hw']
    exact ⟨rfl, h.written, h.diagnostics, h.events⟩
  | error reason =>
    have hw' : p'.files.write (Files.joinPath directory index) (indexText p'.written) = .error reason := by
      rw [h.files, h.written, hw]
    rw [addIndex_of_write_error hw, addIndex_of_write_error hw']
    exact h.report _

end Sheds

end Publication

/-- What publishing leaves behind of units of which no two have one file name: none of them is in the way of another. -/
structure Isolated (files : FileTree) (directory index : String) (units : List BinderUnit) (p : Publication) : Prop
    extends Published files directory index units p where
  /-- Whether a unit can be written at its turn is settled at the start. -/
  turn : ∀ before u after p₀, units = before ++ u :: after →
    before.foldlM (Publication.addUnit directory) (.start files) = .ok p₀ →
      p₀.files.isWritable (u.pathIn directory) = files.isWritable (u.pathIn directory)
  last : ∃ q text, units.foldlM (Publication.addUnit directory) (.start files) = .ok q ∧ q.written = p.written ∧
    IsIndexOf text p.written ∧
    q.files.isWritable (Files.joinPath directory index) = files.isWritable (Files.joinPath directory index) ∧
    (∀ files', q.files.write (Files.joinPath directory index) text = .ok files' → p = { q with files := files' }) ∧
      ∀ reason, q.files.write (Files.joinPath directory index) text = .error reason →
        p = q.report (.indexNotWritten (Files.joinPath directory index) reason.message)
  errors : ∀ d ∈ p.diagnostics, d.isError = true
  kept : ∀ u ∈ units, files.isWritable (u.pathIn directory) = true →
    files.Apart (u.pathIn directory) (Files.joinPath directory index) →
      ∃ text, u.render = .ok text ∧ p.files.read (u.pathIn directory) = .ok text.toUTF8
  /-- Without a unit that fails everything would be as it is, but for the report on that unit. -/
  without : ∀ before u after, units = before ++ u :: after → files.isWritable (u.pathIn directory) = false →
    ∃ p₀ d p', before.foldlM (Publication.addUnit directory) (.start files) = .ok p₀ ∧
      Publication.ReportsUnit directory u d ∧ publish files directory index (before ++ after) = .ok p' ∧
        Publication.Sheds p₀ d p p'

section Outcome

variable {directory index : String} {files : FileTree} {p p' : Publication} {u : BinderUnit}
  {before after units : List BinderUnit}

theorem publish_without (h : publish files directory index (before ++ u :: after) = .ok p)
    (hwritable : files.isWritable (u.pathIn directory) = false) :
    ∃ p₀ d p', before.foldlM (Publication.addUnit directory) (.start files) = .ok p₀ ∧
      Publication.ReportsUnit directory u d ∧ publish files directory index (before ++ after) = .ok p' ∧
        Publication.Sheds p₀ d p p' := by
  obtain ⟨q, hq, rfl⟩ := publish_eq_ok_iff.mp h
  simp only [List.foldlM_append, List.foldlM_cons, Attempt.bind_eq_ok_iff] at hq
  obtain ⟨p₀, hbefore, p₁, hu, hafter⟩ := hq
  -- what was written before the unit has made no room for it, so at its turn it fails and is reported
  have hdirs : files.SameDirectories p₀.files := (Publication.grows_of_foldlM hbefore).directories
  obtain ⟨text, hrender⟩ := Publication.exists_render_of_addUnit hu
  obtain ⟨reason, hw⟩ := FileTree.write_of_not_isWritable (hdirs.isWritable_eq.trans hwritable) text
  rw [Publication.addUnit_of_write_error hrender hw, Except.ok.injEq] at hu
  subst hu
  obtain ⟨q', hq', hsheds⟩ := (Publication.sheds_report p₀ _).foldlM hafter
  refine ⟨p₀, _, _, hbefore, ⟨_, rfl⟩, publish_eq_ok_iff.mpr ⟨q', ?_, rfl⟩, hsheds.addIndex⟩
  rw [List.foldlM_append, hbefore]
  exact hq'

theorem isError_of_published (h : Published files directory index units p) : ∀ d ∈ p.diagnostics, d.isError = true := by
  obtain ⟨ds, hds, hindex⟩ := h.reports
  have hunits := Publication.isError_of_reportsUnit hds
  split at hindex
  · rwa [hindex]
  · obtain ⟨reason, hdiagnostics⟩ := hindex
    rw [hdiagnostics, List.forall_mem_append]
    exact ⟨hunits, by simp [Diagnostic.isError, Diagnostic.severity]⟩

theorem isolated_of_publish (h : publish files directory index units = .ok p)
    (hdiffer : (units.map BinderUnit.fileName).Nodup) (hnames : ∀ u ∈ units, '/' ∉ u.fileName.toList) :
    Isolated files directory index units p := by
  have hpublished := published_of_publish h
  obtain ⟨q, hq, hp⟩ := publish_eq_ok_iff.mp h
  have hgrows := Publication.grows_of_foldlM hq
  have hplain : ∀ u ∈ units, FileTree.IsPlain u.fileName := fun u hu => ⟨by simp [BinderUnit.fileName], hnames u hu⟩
  have hwritten : q.written = p.written := hgrows.written.trans hpublished.written.symm
  refine { hpublished with
    turn := fun before u after p₀ _ hbefore => ?_
    last := ⟨q, indexText q.written, hq, hwritten, hwritten ▸ isIndexOf_indexText q.written,
      hgrows.directories.isWritable_eq, fun files' hw => ?_, fun reason hw => ?_⟩
    errors := isError_of_published hpublished
    kept := fun u hu hwritable hindex => ?_
    without := ?_ }
  · exact (Publication.grows_of_foldlM hbefore).directories.isWritable_eq
  · rw [← hp, Publication.addIndex_of_write hw]
  · rw [← hp, Publication.addIndex_of_write_error hw]
  · exact hpublished.read_of_apart_index hplain hdiffer hu hwritable hindex
  · rintro before u after rfl hwritable
    exact publish_without h hwritable

end Outcome

/-- Units that have a text and file names of their own are published one by one: those that fail are reported and
left out, and make no difference to anything else. -/
theorem publish_isolates_failures (files : FileTree) (directory index : String) {units : List BinderUnit}
    (hrender : ∀ u ∈ units, ∃ text, u.render = .ok text) (hdiffer : (units.map BinderUnit.fileName).Nodup)
    (hnames : ∀ u ∈ units, '/' ∉ u.fileName.toList) :
    ∃ p, publish files directory index units = .ok p ∧ Isolated files directory index units p := by
  obtain ⟨p, hp⟩ := exists_publish files directory index hrender
  exact ⟨p, hp, isolated_of_publish hp hdiffer hnames⟩

def settingsUnit : BinderUnit where
  package := "app"
  host := "Settings"
  name := "SettingsViewBinder"
  moduleName := "app_settings_view_binder"
  imports := ⟨[⟨"w::Label", "Label", ⟨"app", "Settings", "title", "w::Label", 1⟩⟩]⟩
  assignments := [⟨"title", .imported "Label", 1⟩]
  roots := .resolve .none

theorem publish_blocked_isolates :
    let files : FileTree := ⟨[(["out"], .directory), (["out", "app_main_view_binder.rs"], .directory)], []⟩
    let units := [labelUnit, settingsUnit]
    files.isWritable (labelUnit.pathIn "out") = false ∧ files.isWritable (settingsUnit.pathIn "out") = true ∧
      (∀ u ∈ units, ∃ text, u.render = .ok text) ∧ (units.map BinderUnit.fileName).Nodup ∧
        (∀ u ∈ units, '/' ∉ u.fileName.toList) ∧
          ∃ p, publish files "out" "viewbind.rs" units = .ok p ∧ Isolated files "out" "viewbind.rs" units p := by
  intro files units
  have hrender : ∀ u ∈ units, ∃ text, u.render = .ok text := by
    have hok : ∀ u ∈ units, u.render.isOk = true := by decide +kernel
    intro u hu
    have hu := hok u hu
    cases hr : u.render with
    | ok text => exact ⟨text, rfl⟩
    | error e => simp [hr, Except.isOk, Except.toBool] at hu
  have hdiffer : (units.map BinderUnit.fileName).Nodup := by decide +kernel
  have hnames : ∀ u ∈ units, '/' ∉ u.fileName.toList := by decide +kernel
  exact ⟨by decide +kernel, by decide +kernel, hrender, hdiffer, hnames,
    publish_isolates_failures files "out" "viewbind.rs" hrender hdiffer hnames⟩

end HostBinder

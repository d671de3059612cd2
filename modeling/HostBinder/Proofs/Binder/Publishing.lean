import HostBinder.Binder.Emit
import HostBinder.Proofs.Binder.IndexText
import HostBinder.Proofs.Files.PlainNames

set_option autoImplicit false

namespace HostBinder

def BinderUnit.pathIn (directory : String) (u : BinderUnit) : String := Files.joinPath directory u.fileName

namespace Publication

variable {directory index text : String} {files : FileTree} {p p' p'' : Publication} {u : BinderUnit}
  {us vs : List BinderUnit}

/-- Whether a diagnostic reports that a unit was not written. -/
def ReportsUnit (directory : String) (u : BinderUnit) (d : Diagnostic) : Prop :=
  ∃ reason, d = .unitNotWritten u.hostPath (u.pathIn directory) reason

theorem isError_of_reportsUnit {ds : List Diagnostic} (h : List.Forall₂ (ReportsUnit directory) us ds) :
    ∀ d ∈ ds, d.isError = true := by
  induction h with
  | nil => simp
  | cons hreports _ ih =>
    obtain ⟨reason, rfl⟩ := hreports
    exact List.forall_mem_cons.mpr ⟨rfl, ih⟩

/-- What writing units adds to a publication. Each of them is either among the written ones or reported. -/
structure Grows (directory : String) (us : List BinderUnit) (p p' : Publication) : Prop where
  directories : p.files.SameDirectories p'.files
  written : p'.written =
    p.written ++ (us.filter fun u => p.files.isWritable (u.pathIn directory)).map (BinderUnit.pathIn directory)
  reports : ∃ ds, p'.diagnostics = p.diagnostics ++ ds ∧
    List.Forall₂ (ReportsUnit directory) (us.filter fun u => !p.files.isWritable (u.pathIn directory)) ds
  elsewhere : ∀ q, (∀ u ∈ us, p.files.target (u.pathIn directory) ≠ .ok q) → p'.files.get? q = p.files.get? q

theorem Grows.refl (directory : String) (p : Publication) : p.Grows directory [] p where
  directories := .refl _
  written := by simp
  reports := ⟨[], by simp⟩
  elsewhere := fun _ _ => rfl

theorem Grows.append (h : p.Grows directory us p') (h' : p'.Grows directory vs p'') :
    p.Grows directory (us ++ vs) p'' where
  directories := h.directories.trans h'.directories
  written := by
    rw [h'.written, h.written]
    simp [h.directories.isWritable_eq]
  reports := by
    obtain ⟨ds, hds, hreports⟩ := h.reports
    obtain ⟨es, hes, hreports'⟩ := h'.reports
    simp only [h.directories.isWritable_eq] at hreports'
    refine ⟨ds ++ es, by rw [hes, hds, List.append_assoc], ?_⟩
    rw [List.filter_append]
    exact List.rel_append hreports hreports'
  elsewhere := by
    intro q hq
    rw [h'.elsewhere q fun v hv => ?_, h.elsewhere q fun u hu => hq u (by simp [hu])]
    rw [Ne, h.directories.target_eq_ok_iff]
    exact hq v (by simp [hv])

theorem addUnit_of_write (hrender : u.render = .ok text) (h : p.files.write (u.pathIn directory) text = .ok files) :
    p.addUnit directory u = .ok
      { p with
        files
        written := p.written ++ [u.pathIn directory]
        events := p.events ++ [.binderWritten u.registeredName (u.pathIn directory)] } := by
  rw [BinderUnit.pathIn] at h
  simp only [addUnit, hrender, h, bind, Except.bind, pure, Except.pure, BinderUnit.pathIn]

theorem addUnit_of_write_error {reason : FileError} (hrender : u.render = .ok text)
    (h : p.files.write (u.pathIn directory) text = .error reason) :
    p.addUnit directory u = .ok (p.report (.unitNotWritten u.hostPath (u.pathIn directory) reason.message)) := by
  rw [BinderUnit.pathIn] at h
  simp only [addUnit, hrender, h, bind, Except.bind, pure, Except.pure, BinderUnit.pathIn]

theorem exists_render_of_addUnit (h : p.addUnit directory u = .ok p') : ∃ text, u.render = .ok text := by
  rw [addUnit, Attempt.bind_eq_ok_iff] at h
  obtain ⟨text, htext, _⟩ := h
  exact ⟨text, htext⟩

theorem grows_of_addUnit (h : p.addUnit directory u = .ok p') : p.Grows directory [u] p' := by
  obtain ⟨text, hrender⟩ := exists_render_of_addUnit h
  cases hwritable : p.files.isWritable (u.pathIn directory) with
  | true =>
    obtain ⟨files, hw⟩ := FileTree.write_of_isWritable hwritable text
    rw [addUnit_of_write hrender hw, Except.ok.injEq] at h
    subst h
    refine ⟨.write hw, by simp [hwritable], ⟨[], by simp [hwritable]⟩, fun q hq => ?_⟩
    exact FileTree.get?_write_of_ne hw (hq u (by simp))
  | false =>
    obtain ⟨reason, hw⟩ := FileTree.write_of_not_isWritable hwritable text
    rw [addUnit_of_write_error hrender hw, Except.ok.injEq] at h
    subst h
    refine ⟨.refl _, by simp [hwritable, report], ⟨_, rfl, ?_⟩, fun q _ => rfl⟩
    simp [hwritable, ReportsUnit]

theorem grows_of_foldlM (h : us.foldlM (addUnit directory) p = .ok p') : p.Grows directory us p' := by
  induction us generalizing p with
  | nil =>
    rw [List.foldlM_nil, Attempt.pure_eq_ok_iff] at h
    subst h
    exact .refl directory p
  | cons u us ih =>
    rw [List.foldlM_cons, Attempt.bind_eq_ok_iff] at h
    obtain ⟨p₁, hu, hrest⟩ := h
    exact (grows_of_addUnit hu).append (ih hrest)

theorem exists_foldlM (hrender : ∀ u ∈ us, ∃ text, u.render = .ok text) (p : Publication) :
    ∃ p', us.foldlM (addUnit directory) p = .ok p' := by
  induction us generalizing p with
  | nil => exact ⟨p, rfl⟩
  | cons u us ih =>
    obtain ⟨text, htext⟩ := hrender u (by simp)
    obtain ⟨p₁, hu⟩ : ∃ p₁, p.addUnit directory u = .ok p₁ := by
      cases hw : p.files.write (u.pathIn directory) text with
      | ok files => exact ⟨_, addUnit_of_write htext hw⟩
      | error reason => exact ⟨_, addUnit_of_write_error htext hw⟩
    obtain ⟨p', hrest⟩ := ih (fun v hv => hrender v (by simp [hv])) p₁
    exact ⟨p', by rw [List.foldlM_cons, hu]; exact hrest⟩

theorem read_of_addUnit (h : p.addUnit directory u = .ok p')
    (hwritable : p.files.isWritable (u.pathIn directory) = true) :
    ∃ text, u.render = .ok text ∧ p'.files.read (u.pathIn directory) = .ok text.toUTF8 := by
  obtain ⟨text, hrender⟩ := exists_render_of_addUnit h
  obtain ⟨files, hw⟩ := FileTree.write_of_isWritable hwritable text
  rw [addUnit_of_write hrender hw, Except.ok.injEq] at h
  subst h
  exact ⟨text, hrender, FileTree.read_write hw⟩

theorem read_of_foldlM {before after : List BinderUnit}
    (h : (before ++ u :: after).foldlM (addUnit directory) p = .ok p')
    (hwritable : p.files.isWritable (u.pathIn directory) = true)
    (hafter : ∀ v ∈ after, p.files.Apart (u.pathIn directory) (v.pathIn directory)) :
    ∃ text, u.render = .ok text ∧ p'.files.read (u.pathIn directory) = .ok text.toUTF8 := by
  simp only [List.foldlM_append, List.foldlM_cons, Attempt.bind_eq_ok_iff] at h
  obtain ⟨p₁, hbefore, p₂, hu, hrest⟩ := h
  have hdirs₁ := (grows_of_foldlM hbefore).directories
  have hdirs₂ := hdirs₁.trans (grows_of_addUnit hu).directories
  obtain ⟨text, hrender, hread⟩ := read_of_addUnit hu (by rw [hdirs₁.isWritable_eq, hwritable])
  obtain ⟨q, hq⟩ := FileTree.isWritable_iff.mp hwritable
  have hget : p'.files.get? q = p₂.files.get? q := by
    refine (grows_of_foldlM hrest).elsewhere q fun v hv => ?_
    rw [Ne, hdirs₂.target_eq_ok_iff]
    exact hafter v hv q hq
  have hrest := (grows_of_foldlM hrest).directories
  exact ⟨text, hrender, (hrest.read_eq_ok_iff (hdirs₂.target_eq_ok_iff.mpr hq) hget).mpr hread⟩

theorem addIndex_of_write (h : p.files.write (Files.joinPath directory index) (indexText p.written) = .ok files) :
    p.addIndex directory index = { p with files } := by
  delta addIndex
  simp only [h]

theorem addIndex_of_write_error {reason : FileError}
    (h : p.files.write (Files.joinPath directory index) (indexText p.written) = .error reason) :
    p.addIndex directory index = p.report (.indexNotWritten (Files.joinPath directory index) reason.message) := by
  delta addIndex
  simp only [h]

end Publication

/-- What publishing leaves behind of the units and the index. -/
structure Published (files : FileTree) (directory index : String) (units : List BinderUnit) (p : Publication) :
    Prop where
  written : p.written =
    (units.filter fun u => files.isWritable (u.pathIn directory)).map (BinderUnit.pathIn directory)
  /-- A written unit is found at its path, if nothing that is written after it goes to the same place. -/
  unit_kept : ∀ before u after, units = before ++ u :: after → files.isWritable (u.pathIn directory) = true →
    (∀ v ∈ after, files.Apart (u.pathIn directory) (v.pathIn directory)) →
    files.Apart (u.pathIn directory) (Files.joinPath directory index) →
    ∃ text, u.render = .ok text ∧ p.files.read (u.pathIn directory) = .ok text.toUTF8
  /-- An index that goes to the place of a unit takes it. -/
  unit_replaced : ∀ u ∈ units, ¬files.Apart (u.pathIn directory) (Files.joinPath directory index) →
    p.files.read (u.pathIn directory) = .ok (indexText p.written).toUTF8
  index_written : files.isWritable (Files.joinPath directory index) = true →
    p.files.read (Files.joinPath directory index) = .ok (indexText p.written).toUTF8
  index_includes : IsIndexOf (indexText p.written) p.written
  /-- What could not be written is reported, and nothing else is. -/
  reports : ∃ ds, List.Forall₂ (Publication.ReportsUnit directory)
      (units.filter fun u => !files.isWritable (u.pathIn directory)) ds ∧
    if files.isWritable (Files.joinPath directory index) then p.diagnostics = ds
    else ∃ reason, p.diagnostics = ds ++ [.indexNotWritten (Files.joinPath directory index) reason]
  /-- No other place has changed. -/
  elsewhere : ∀ q, (∀ u ∈ units, files.target (u.pathIn directory) ≠ .ok q) →
    files.target (Files.joinPath directory index) ≠ .ok q → p.files.get? q = files.get? q

theorem publish_eq_ok_iff {files : FileTree} {directory index : String} {units : List BinderUnit}
    {p' : Publication} :
    publish files directory index units = .ok p' ↔
      ∃ p, units.foldlM (Publication.addUnit directory) (.start files) = .ok p ∧
        p.addIndex directory index = p' := by
  rw [publish, Attempt.bind_eq_ok_iff]
  simp only [Attempt.pure_eq_ok_iff]

theorem published_of_publish {files : FileTree} {directory index : String} {units : List BinderUnit}
    {p' : Publication} (h : publish files directory index units = .ok p') :
    Published files directory index units p' := by
  obtain ⟨p, hp, rfl⟩ := publish_eq_ok_iff.mp h
  have hgrows := Publication.grows_of_foldlM hp
  have hdirs : files.SameDirectories p.files := hgrows.directories
  obtain ⟨ds, hds, hreports⟩ := hgrows.reports
  have hindex : p.files.isWritable (Files.joinPath directory index) =
      files.isWritable (Files.joinPath directory index) := hdirs.isWritable_eq
  cases hwritable : files.isWritable (Files.joinPath directory index) with
  | true =>
    obtain ⟨files', hw⟩ := FileTree.write_of_isWritable (hindex.trans hwritable) (indexText p.written)
    rw [Publication.addIndex_of_write hw]
    refine ⟨hgrows.written, ?_, ?_, fun _ => FileTree.read_write hw, isIndexOf_indexText _, ⟨ds, hreports, ?_⟩, ?_⟩
    · intro before u after hunits hu hafter hapart
      subst hunits
      obtain ⟨text, hrender, hread⟩ := Publication.read_of_foldlM hp hu hafter
      rw [← hdirs.isWritable_eq] at hu
      exact ⟨text, hrender, (FileTree.read_write_of_apart hw hu (hdirs.apart_iff.mpr hapart)).mpr hread⟩
    · intro u _ hapart
      refine FileTree.read_write_of_not_apart hw ?_
      rwa [hdirs.apart_iff]
    · rw [if_pos hwritable]
      exact hds
    · intro q hq hne
      rw [FileTree.get?_write_of_ne hw (by rwa [Ne, hdirs.target_eq_ok_iff])]
      exact hgrows.elsewhere q hq
  | false =>
    obtain ⟨reason, hw⟩ := FileTree.write_of_not_isWritable (hindex.trans hwritable) (indexText p.written)
    rw [Publication.addIndex_of_write_error hw]
    refine ⟨hgrows.written, ?_, ?_, ?_, isIndexOf_indexText _, ⟨ds, hreports, ?_⟩, ?_⟩
    · intro before u after hunits hu hafter _
      subst hunits
      obtain ⟨text, hrender, hread⟩ := Publication.read_of_foldlM hp hu hafter
      exact ⟨text, hrender, hread⟩
    · -- an index that leads to the place of a unit could be written
      intro u _ hapart
      simp only [FileTree.Apart, ne_eq, not_forall, not_not] at hapart
      obtain ⟨q, _, hq⟩ := hapart
      rw [FileTree.isWritable_iff.mpr ⟨q, hq⟩] at hwritable
      cases hwritable
    · simp [hwritable]
    · rw [if_neg (by simp [hwritable])]
      exact ⟨reason.message, by rw [Publication.report, hds]; rfl⟩
    · intro q hq _
      exact hgrows.elsewhere q hq

theorem Published.read_of_apart_index {files : FileTree} {directory index : String} {units : List BinderUnit}
    {p : Publication} (h : Published files directory index units p)
    (hplain : ∀ u ∈ units, FileTree.IsPlain u.fileName) (hdiffer : (units.map BinderUnit.fileName).Nodup)
    {u : BinderUnit} (hu : u ∈ units) (hwritable : files.isWritable (u.pathIn directory) = true)
    (hindex : files.Apart (u.pathIn directory) (Files.joinPath directory index)) :
    ∃ text, u.render = .ok text ∧ p.files.read (u.pathIn directory) = .ok text.toUTF8 := by
  obtain ⟨before, after, rfl⟩ := List.append_of_mem hu
  refine h.unit_kept before u after rfl hwritable (fun v hv => ?_) hindex
  refine FileTree.apart_joinPath (hplain u hu) (hplain v (by simp [hv])) fun heq => ?_
  rw [List.map_append, List.map_cons] at hdiffer
  have hlater := (List.nodup_cons.mp (List.nodup_append.mp hdiffer).2.1).1
  exact hlater (heq ▸ List.mem_map_of_mem hv)

/-- Files with plain names of their own are all kept: no unit is lost unless another file of the pass, with the index
counted among them, has its name. -/
theorem Published.read_of_names_differ {files : FileTree} {directory index : String} {units : List BinderUnit}
    {p : Publication} (h : Published files directory index units p)
    (hplain : ∀ name ∈ index :: units.map BinderUnit.fileName, FileTree.IsPlain name)
    (hdiffer : (index :: units.map BinderUnit.fileName).Nodup) {u : BinderUnit} (hu : u ∈ units)
    (hwritable : files.isWritable (u.pathIn directory) = true) :
    ∃ text, u.render = .ok text ∧ p.files.read (u.pathIn directory) = .ok text.toUTF8 := by
  obtain ⟨hindex, hunits⟩ := List.nodup_cons.mp hdiffer
  have hname : ∀ v ∈ units, FileTree.IsPlain v.fileName := fun v hv => hplain _ (by simp [List.mem_map_of_mem hv])
  refine h.read_of_apart_index hname hunits hu hwritable ?_
  refine FileTree.apart_joinPath (hname u hu) (hplain index (by simp)) fun heq => ?_
  exact hindex (heq ▸ List.mem_map_of_mem hu)

theorem exists_publish (files : FileTree) (directory index : String) {units : List BinderUnit}
    (hrender : ∀ u ∈ units, ∃ text, u.render = .ok text) : ∃ p, publish files directory index units = .ok p := by
  obtain ⟨p, hp⟩ := Publication.exists_foldlM hrender (.start files)
  exact ⟨_, publish_eq_ok_iff.mpr ⟨p, hp, rfl⟩⟩

/-- Publishing units that have a text always comes to an end, and leaves each written unit in its file unless a
later one, or the index, goes to the same place. -/
theorem publish_leaves_last_written (files : FileTree) (directory index : String) {units : List BinderUnit}
    (hrender : ∀ u ∈ units, ∃ text, u.render = .ok text) :
    ∃ p, publish files directory index units = .ok p ∧ Published files directory index units p := by
  obtain ⟨p, hp⟩ := exists_publish files directory index hrender
  exact ⟨p, hp, published_of_publish hp⟩

def labelUnit : BinderUnit where
  package := "app"
  host := "Main"
  name := "MainViewBinder"
  moduleName := "app_main_view_binder"
  imports := ⟨[⟨"w::Label", "Label", ⟨"app", "Main", "title", "w::Label", 1⟩⟩]⟩
  assignments := [⟨"title", .imported "Label", 1⟩]
  roots := .resolve .none

theorem publish_labelUnit :
    (∀ u ∈ [labelUnit], ∃ text, u.render = .ok text) ∧
      ∃ p, publish ⟨[(["out"], .directory)], []⟩ "out" "viewbind.rs" [labelUnit] = .ok p ∧
        Published ⟨[(["out"], .directory)], []⟩ "out" "viewbind.rs" [labelUnit] p := by
  have hrender : ∀ u ∈ [labelUnit], ∃ text, u.render = .ok text := by
    have hok : labelUnit.render.isOk = true := by decide +kernel
    intro u hu
    rw [List.mem_singleton.mp hu]
    cases hr : labelUnit.render with
    | ok text => exact ⟨text, rfl⟩
    | error e => simp [hr, Except.isOk, Except.toBool] at hok
  exact ⟨hrender, publish_leaves_last_written _ _ _ hrender⟩

/-- An index that is named like a unit's file replaces it, though the unit is among the written ones and nothing
is reported. -/
theorem index_replaces_unit :
    (HostGroup.mk "app" "Main" [⟨"app", "Main", "title", "w::Label", 1⟩]).emit (fun _ => true) .skip
        (.resolve .none) = .ok ⟨some labelUnit, []⟩ ∧
      ∃ p, publish ⟨[(["out"], .directory)], []⟩ "out" "app_main_view_binder.rs" [labelUnit] = .ok p ∧
        p.written = ["out/app_main_view_binder.rs"] ∧ p.diagnostics = [] ∧
        p.files.readText "out/app_main_view_binder.rs" = .ok (indexText p.written) ∧
        labelUnit.render ≠ .ok (indexText p.written) := by
  refine ⟨by with_unfolding_all rfl, ?_⟩
  have hpublish : (publish ⟨[(["out"], .directory)], []⟩ "out" "app_main_view_binder.rs" [labelUnit]).map
      (fun p => (p.written, p.diagnostics, p.files.readText "out/app_main_view_binder.rs")) =
        .ok (["out/app_main_view_binder.rs"], [], .ok (indexText ["out/app_main_view_binder.rs"])) := by
    decide +kernel
  cases hp : publish ⟨[(["out"], .directory)], []⟩ "out" "app_main_view_binder.rs" [labelUnit] with
  | error e =>
    rw [hp] at hpublish
    cases hpublish
  | ok p =>
    rw [hp] at hpublish
    simp only [Except.map, Except.ok.injEq, Prod.mk.injEq] at hpublish
    obtain ⟨hwritten, hdiagnostics, hread⟩ := hpublish
    refine ⟨p, rfl, hwritten, hdiagnostics, by rw [hread, hwritten], ?_⟩
    rw [hwritten]
    decide +kernel

end HostBinder

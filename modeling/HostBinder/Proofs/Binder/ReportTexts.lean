import HostBinder.Proofs.Binder.Publishing
import HostBinder.Proofs.Binder.Shares
import HostBinder.Proofs.Code.Names
import HostBinder.Proofs.Text.Lines

set_option autoImplicit false

namespace HostBinder

open Text

structure Host.IsOneLined (h : Host) : Prop where
  modulePath : IsOneLine h.name.modulePath
  ident : IsOneLine h.name.ident
  bindings : ∀ b ∈ h.bindings, IsOneLine b.field ∧ IsOneLine b.type

theorem Host.IsOneLined.path {h : Host} (hh : h.IsOneLined) : IsOneLine h.group.path :=
  isOneLine_append.mpr ⟨isOneLine_append.mpr ⟨hh.modulePath, by decide⟩, hh.ident⟩

theorem Host.IsOneLined.moduleName {h : Host} (hh : h.IsOneLined) : IsOneLine h.group.moduleName := by
  refine isOneLine_snakeCase (isOneLine_append.mpr ⟨isOneLine_append.mpr ⟨?_, by decide⟩, ?_⟩)
  · rw [IsOneLine, String.toList_ofList]
    exact lineFeed_not_mem_underscored hh.modulePath
  · exact isOneLine_append.mpr ⟨hh.ident, by decide⟩

theorem isOneLine_of_isIdentifier {s : String} (h : IsIdentifier s) : IsOneLine s := by
  obtain ⟨c, cs, hs, hc, hcs⟩ := h
  have hstart : ¬IsNameStart '\n' := by
    rw [← isNameStart_iff]
    decide
  rw [IsOneLine, hs]
  intro hmem
  rcases List.mem_cons.mp hmem with rfl | hmem
  · exact hstart hc
  · rcases hcs _ hmem with hc | hdigit
    · exact hstart hc
    · revert hdigit
      decide

namespace Diagnostic

/-- The texts that the message of a diagnostic quotes. -/
def quoted : Diagnostic → List String
  | nonconforming field host type base => [field, host, type, base]
  | aborted host _ => [host]
  | unnameable host => [host]
  | unassignable field host => [field, host]
  | moduleTaken moduleName host => [moduleName, host]
  | unitNotWritten host file reason => [host, file, reason]
  | indexNotWritten file reason => [file, reason]
  | remark _ text => [text]

/-- The reports of a pass over `hosts` and of publishing its units, with the texts that each of them quotes. -/
inductive ComesFrom (hosts : List Host) (base directory index : String) : Diagnostic → Prop
  | nonconforming {h : Host} {b : Binding} (hh : h ∈ hosts) (hb : b ∈ h.bindings) :
      ComesFrom hosts base directory index (.nonconforming b.field h.group.path b.type base)
  | aborted {h : Host} (hh : h ∈ hosts) (fields : Nat) :
      ComesFrom hosts base directory index (.aborted h.group.path fields)
  | unnameable {h : Host} (hh : h ∈ hosts) : ComesFrom hosts base directory index (.unnameable h.group.path)
  | unassignable {h : Host} {b : Binding} (hh : h ∈ hosts) (hb : b ∈ h.bindings) :
      ComesFrom hosts base directory index (.unassignable b.field h.group.path)
  | moduleTaken {h : Host} (hh : h ∈ hosts) :
      ComesFrom hosts base directory index (.moduleTaken h.group.moduleName h.group.path)
  | unitNotWritten {h : Host} (hh : h ∈ hosts) (reason : FileError) :
      ComesFrom hosts base directory index
        (.unitNotWritten h.group.path (Files.joinPath directory (h.group.moduleName ++ ".rs")) reason.message)
  | indexNotWritten (reason : FileError) :
      ComesFrom hosts base directory index (.indexNotWritten (Files.joinPath directory index) reason.message)

theorem isOneLine_text_iff (d : Diagnostic) : IsOneLine d.text ↔ ∀ s ∈ d.quoted, IsOneLine s := by
  have hseverity : IsOneLine (d.severity.name ++ ": ") := by
    cases d.severity <;> decide
  rw [text, isOneLine_append, and_iff_right hseverity]
  -- opened as it stands: the equations of `message` are slow to come by
  delta message
  cases d with
  | nonconforming => simp +decide [quoted, toString, and_assoc]
  | aborted => simp +decide [quoted, toString, isOneLine_repr]
  | unnameable => simp +decide [quoted, toString]
  | unassignable => simp +decide [quoted, toString]
  | moduleTaken => simp +decide [quoted, toString]
  | unitNotWritten => simp +decide [quoted, toString, and_assoc]
  | indexNotWritten => simp +decide [quoted, toString]
  | remark => simp [quoted]

section Sources

variable {hosts : List Host} {base directory index : String} {d : Diagnostic}

theorem ComesFrom.not_endsInReturn (h : ComesFrom hosts base directory index d) : ¬EndsInReturn d.text := by
  have hreason : ∀ reason : FileError, reason.message ≠ "" ∧ ¬EndsInReturn reason.message := by
    intro reason
    cases reason <;> decide
  rw [text]
  delta message
  cases h <;> rw [← String.append_assoc]
  case unitNotWritten reason => exact not_endsInReturn_append (hreason reason).1 (hreason reason).2
  case indexNotWritten reason => exact not_endsInReturn_append (hreason reason).1 (hreason reason).2
  all_goals exact not_endsInReturn_append (by decide) (by decide)

theorem ComesFrom.isOneLine_quoted (h : ComesFrom hosts base directory index d) (hhosts : ∀ h ∈ hosts, h.IsOneLined)
    (hbase : IsOneLine base) (hdirectory : IsOneLine directory) (hindex : IsOneLine index) :
    ∀ s ∈ d.quoted, IsOneLine s := by
  have hreason : ∀ reason : FileError, IsOneLine reason.message := by
    intro reason
    cases reason <;> decide
  cases h with
  | nonconforming hh hb =>
    obtain ⟨hfield, htype⟩ := (hhosts _ hh).bindings _ hb
    simp [quoted, hfield, htype, hbase, (hhosts _ hh).path]
  | aborted hh => simp [quoted, (hhosts _ hh).path]
  | unnameable hh => simp [quoted, (hhosts _ hh).path]
  | unassignable hh hb => simp [quoted, (hhosts _ hh).path, ((hhosts _ hh).bindings _ hb).1]
  | moduleTaken hh => simp [quoted, (hhosts _ hh).path, (hhosts _ hh).moduleName]
  | unitNotWritten hh reason =>
    have hextension : IsOneLine ".rs" := by decide
    simp [quoted, (hhosts _ hh).path, (hhosts _ hh).moduleName, isOneLine_joinPath, hdirectory, hextension, hreason]
  | indexNotWritten reason => simp [quoted, isOneLine_joinPath hdirectory hindex, hreason]

end Sources

end Diagnostic

def BinderUnit.IsFor (hosts : List Host) (u : BinderUnit) : Prop :=
  ∃ h ∈ hosts, u.hostPath = h.group.path ∧ u.moduleName = h.group.moduleName

section Pass

variable {s : Schema} {settings : Settings} {roots : CrateRoots} {g : Generation}

theorem Schema.comesFrom_of_mem_reports {h : Host} {d : Diagnostic} (hh : h ∈ s.boundHosts)
    (hd : d ∈ s.reports settings roots h) (directory index : String) :
    d.ComesFrom s.boundHosts settings.baseType directory index := by
  rw [reports, List.mem_append, List.mem_append] at hd
  rcases hd with (hd | hd) | hd
  · obtain ⟨b, hb, rfl⟩ := List.mem_map.mp hd
    exact .nonconforming hh (List.mem_filter.mp hb).1
  · rcases mem_diagnostics_emission hd with ⟨n, rfl⟩ | rfl | ⟨b, hb, rfl⟩
    · exact .aborted hh n
    · exact .unnameable hh
    · exact .unassignable hh hb
  · unfold collisions at hd
    split at hd
    · obtain ⟨u, hu, rfl⟩ := List.mem_map.mp hd
      have hdraft := Option.mem_toList.mp hu
      rw [moduleName_of_draft? hdraft, hostPath_of_draft? hdraft]
      exact .moduleTaken hh
    · cases hd

theorem comesFrom_of_generate (hg : generate s settings roots = .ok g) (directory index : String) :
    ∀ d ∈ g.diagnostics, d.ComesFrom s.boundHosts settings.baseType directory index := by
  obtain rfl := eq_shares_of_generate hg
  intro d hd
  obtain ⟨h, hh, hd⟩ := List.mem_flatMap.mp hd
  exact Schema.comesFrom_of_mem_reports hh hd directory index

theorem isFor_of_generate (hg : generate s settings roots = .ok g) : ∀ u ∈ g.units, u.IsFor s.boundHosts := by
  obtain rfl := eq_shares_of_generate hg
  intro u hu
  obtain ⟨h, hh, hkept⟩ := List.mem_filterMap.mp hu
  have hdraft := (Schema.kept?_eq_some_iff.mp hkept).1
  exact ⟨h, hh, Schema.hostPath_of_draft? hdraft, Schema.moduleName_of_draft? hdraft⟩

end Pass

section Publication

variable {files : FileTree} {hosts : List Host} {base directory index : String} {us : List BinderUnit}
  {p p' : Publication} {u : BinderUnit}

theorem Publication.comesFrom_of_addUnit (h : p.addUnit directory u = .ok p') (hu : u.IsFor hosts)
    (hp : ∀ d ∈ p.diagnostics, d.ComesFrom hosts base directory index) :
    ∀ d ∈ p'.diagnostics, d.ComesFrom hosts base directory index := by
  obtain ⟨text, hrender⟩ := exists_render_of_addUnit h
  cases hw : p.files.write (u.pathIn directory) text with
  | ok files =>
    rw [addUnit_of_write hrender hw, Except.ok.injEq] at h
    subst h
    exact hp
  | error reason =>
    rw [addUnit_of_write_error hrender hw, Except.ok.injEq] at h
    subst h
    obtain ⟨h, hh, hpath, hmodule⟩ := hu
    rw [report, List.forall_mem_append, List.forall_mem_singleton, hpath, BinderUnit.pathIn, BinderUnit.fileName,
      hmodule]
    exact ⟨hp, .unitNotWritten hh reason⟩

theorem Publication.comesFrom_of_foldlM (h : us.foldlM (addUnit directory) p = .ok p') (hus : ∀ u ∈ us, u.IsFor hosts)
    (hp : ∀ d ∈ p.diagnostics, d.ComesFrom hosts base directory index) :
    ∀ d ∈ p'.diagnostics, d.ComesFrom hosts base directory index := by
  induction us generalizing p with
  | nil =>
    rw [List.foldlM_nil, Attempt.pure_eq_ok_iff] at h
    subst h
    exact hp
  | cons u us ih =>
    rw [List.foldlM_cons, Attempt.bind_eq_ok_iff] at h
    obtain ⟨p₁, hu, hrest⟩ := h
    obtain ⟨hfirst, hus⟩ := List.forall_mem_cons.mp hus
    exact ih hrest hus (comesFrom_of_addUnit hu hfirst hp)

theorem comesFrom_of_publish (h : publish files directory index us = .ok p') (hus : ∀ u ∈ us, u.IsFor hosts)
    (base : String) :
    ∀ d ∈ p'.diagnostics, d.ComesFrom hosts base directory index := by
  obtain ⟨p, hp, rfl⟩ := publish_eq_ok_iff.mp h
  have hunits : ∀ d ∈ p.diagnostics, d.ComesFrom hosts base directory index :=
    Publication.comesFrom_of_foldlM hp hus (by simp [Publication.start])
  cases hw : p.files.write (Files.joinPath directory index) (indexText p.written) with
  | ok files =>
    rw [Publication.addIndex_of_write hw]
    exact hunits
  | error reason =>
    rw [Publication.addIndex_of_write_error hw, Publication.report, List.forall_mem_append, List.forall_mem_singleton]
    exact ⟨hunits, .indexNotWritten reason⟩

end Publication

end HostBinder

import HostBinder.Build
import HostBinder.Proofs.Binder.Clean
import HostBinder.Proofs.Binder.Publishing
import HostBinder.Proofs.Binder.Rendering
import HostBinder.Proofs.Binder.ToldEvents
import HostBinder.Proofs.Schema.History

set_option autoImplicit false

/-!
The two ways a build ends. It stops before anything is generated, and then nothing has been written and no
diagnostic printed; or it completes, and then it fails exactly if an error was reported, be it on generating or
on writing. A build without errors has written an index of one unit for each host with bound fields.
-/

namespace HostBinder

open Text

/-- Why a build stops before it generates, and the lines it has printed until then. -/
inductive Stops (context : BuildContext) (files : FileTree) (session : Session) : BuildError → List String → Prop
  | manifestUnset (hm : context.manifestDirectory? = none) :
      Stops context files session (.unset "CARGO_MANIFEST_DIR") []
  | outputUnset {manifest : String} (hm : context.manifestDirectory? = some manifest)
      (ho : context.outputDirectory? = none) : Stops context files session (.unset "OUT_DIR") []
  | settings {manifest output : String} {reason : SettingsFileError}
      (hm : context.manifestDirectory? = some manifest) (ho : context.outputDirectory? = some output)
      (hs : settingsOfDirectory files manifest = .error reason) :
      Stops context files session (.settings reason) (watchDirectives manifest)
  | schema {manifest output : String} {settings : Settings} {report : RoutedErrors Violation}
      (hm : context.manifestDirectory? = some manifest) (ho : context.outputDirectory? = some output)
      (hs : settingsOfDirectory files manifest = .ok settings) (hc : session.schema.check = .error report) :
      Stops context files session (.schema report) (watchDirectives manifest)

/-- A build that is not stopped: what it is told and reads, and what generating and publishing come to. -/
structure Completion (context : BuildContext) (files : FileTree) (session : Session) where
  manifest : String
  output : String
  settings : Settings
  generation : Generation
  publication : Publication
  manifest_told : context.manifestDirectory? = some manifest
  output_told : context.outputDirectory? = some output
  settings_read : settingsOfDirectory files manifest = .ok settings
  passes : session.schema.check = .ok ()
  generated : generate session.schema settings (.resolve context.roots) = .ok generation
  published : publish files output settings.output generation.units = .ok publication

namespace Completion

variable {context : BuildContext} {files : FileTree} {session : Session}

def diagnostics (c : Completion context files session) : List Diagnostic :=
  c.generation.diagnostics ++ c.publication.diagnostics

def outcome (c : Completion context files session) : BuildOutcome where
  result := resultOf ⟨c.generation.units, c.diagnostics, c.generation.events ++ c.publication.events⟩
  output := Text.unlines (watchDirectives c.manifest ++ c.diagnostics.map warningDirective)
  files := c.publication.files
  session := { session with passed := true }

end Completion

variable {context : BuildContext} {files : FileTree} {session : Session}

theorem Session.read_of_check_error {report : RoutedErrors Violation}
    (hpassed : session.passed = true → session.schema.check = .ok ()) (hcheck : session.schema.check = .error report) :
    session.read = (.error report, session) := by
  refine read_of_not_passed (Bool.eq_false_iff.mpr fun hyes => ?_) hcheck
  rw [hpassed hyes] at hcheck
  cases hcheck

theorem generateInto_eq_ok_iff {directory : String} {schema : Schema} {settings : Settings} {roots : CrateRoots}
    {g : Generation} {files' : FileTree} :
    generateInto files directory schema settings roots = .ok (g, files') ↔
      ∃ g₀ p, generate schema settings roots = .ok g₀ ∧ publish files directory settings.output g₀.units = .ok p ∧
        g = ⟨g₀.units, g₀.diagnostics ++ p.diagnostics, g₀.events ++ p.events⟩ ∧ files' = p.files := by
  simp only [generateInto, Attempt.bind_eq_ok_iff, Attempt.pure_eq_ok_iff, Prod.mk.injEq]
  constructor
  · intro hx
    obtain ⟨g₀, hg, p, hp, rfl, rfl⟩ := hx
    exact ⟨g₀, p, hg, hp, rfl, rfl⟩
  · intro hx
    obtain ⟨g₀, p, hg, hp, rfl, rfl⟩ := hx
    exact ⟨g₀, hg, p, hp, rfl, rfl⟩

/-- A build stops or completes; it never meets a malformed identifier. -/
theorem build_stops_or_completes (context : BuildContext) (files : FileTree)
    (hpassed : session.passed = true → session.schema.check = .ok ()) :
    (∃ e printed, Stops context files session e printed ∧
      build context files session = .ok ⟨.error e, Text.unlines printed, files, session⟩) ∨
    ∃ c : Completion context files session, build context files session = .ok c.outcome := by
  cases hm : context.manifestDirectory? with
  | none =>
    refine .inl ⟨_, _, .manifestUnset hm, ?_⟩
    simp only [build, hm]
    rfl
  | some manifest =>
    cases ho : context.outputDirectory? with
    | none =>
      refine .inl ⟨_, _, .outputUnset hm ho, ?_⟩
      simp only [build, hm, ho]
      rfl
    | some output =>
      cases hs : settingsOfDirectory files manifest with
      | error reason =>
        refine .inl ⟨_, _, .settings hm ho hs, ?_⟩
        simp only [build, hm, ho, hs]
        rfl
      | ok settings =>
        cases hc : session.schema.check with
        | error report =>
          refine .inl ⟨_, _, .schema hm ho hs hc, ?_⟩
          simp only [build, hm, ho, hs, Session.read_of_check_error hpassed hc]
          rfl
        | ok =>
          obtain ⟨g, hg, hrender⟩ := exists_generate_of_check hc settings (.resolve context.roots)
          obtain ⟨p, hp⟩ := exists_publish files output settings.output hrender
          refine .inr ⟨⟨manifest, output, settings, g, p, hm, ho, hs, hc, hg, hp⟩, ?_⟩
          simp only [build, hm, ho, hs, Session.read_of_check hc, generateInto_eq_ok_iff.mpr ⟨g, p, hg, hp, rfl, rfl⟩]
          rfl

theorem settingsPath_eq_append (manifest : String) :
    ∃ front, settingsPath manifest = front ++ settingsFileName ∧ (IsOneLine front ↔ IsOneLine manifest) := by
  have habsolute : Files.isAbsolute settingsFileName = false := by decide
  rw [settingsPath, Files.joinPath, habsolute, Bool.false_or]
  split
  · rename_i hempty
    rw [String.isEmpty_iff] at hempty
    exact ⟨"", by simp, by rw [hempty]⟩
  · split
    · exact ⟨manifest, rfl, Iff.rfl⟩
    · have hslash : IsOneLine "/" := by decide
      exact ⟨manifest ++ "/", rfl, by rw [isOneLine_append, and_iff_left hslash]⟩

theorem isOneLine_settingsPath {manifest : String} : IsOneLine (settingsPath manifest) ↔ IsOneLine manifest := by
  have hname : IsOneLine settingsFileName := by decide
  obtain ⟨front, hpath, hfront⟩ := settingsPath_eq_append manifest
  rw [hpath, isOneLine_append, and_iff_left hname, hfront]

theorem not_endsInReturn_of_mem_watchDirectives {manifest line : String} (h : line ∈ watchDirectives manifest) :
    ¬EndsInReturn line := by
  simp only [watchDirectives, List.mem_cons, List.not_mem_nil, or_false] at h
  rcases h with rfl | rfl
  · decide
  · obtain ⟨front, hpath, _⟩ := settingsPath_eq_append manifest
    rw [hpath, ← String.append_assoc]
    exact not_endsInReturn_append (by decide) (by decide)

theorem lines_watchDirectives {manifest : String} (h : IsOneLine manifest) :
    lines (unlines (watchDirectives manifest)) = watchDirectives manifest := by
  rw [lines_unlines_eq_self_iff fun _ => not_endsInReturn_of_mem_watchDirectives]
  intro line hline
  simp only [watchDirectives, List.mem_cons, List.not_mem_nil, or_false] at hline
  rcases hline with rfl | rfl
  · decide
  · exact isOneLine_append.mpr ⟨by decide, isOneLine_settingsPath.mpr h⟩

theorem not_warning_of_mem_watchDirectives {manifest line : String} (h : line ∈ watchDirectives manifest) :
    ¬"cargo:warning".toList <+: line.toList := by
  simp only [watchDirectives, List.mem_cons, List.not_mem_nil, or_false] at h
  rcases h with rfl | rfl
  · decide
  · rw [String.toList_append]
    simp

/-- What a stopped build has printed is read as no warning. It is nothing where a directory is not told; else the
manifest directory is quoted in it, and must not break the line. -/
structure PrintsNoWarning (context : BuildContext) (e : BuildError) (output : String) : Prop where
  unset : ∀ name, e = .unset name → output = ""
  told : (∀ manifest, context.manifestDirectory? = some manifest → IsOneLine manifest) →
    ∀ line ∈ lines output, ¬"cargo:warning".toList <+: line.toList

theorem Stops.printsNoWarning {e : BuildError} {printed : List String} (h : Stops context files session e printed) :
    PrintsNoWarning context e (unlines printed) := by
  have hwatch : ∀ manifest, context.manifestDirectory? = some manifest →
      (∀ manifest, context.manifestDirectory? = some manifest → IsOneLine manifest) →
        ∀ line ∈ lines (unlines (watchDirectives manifest)), ¬"cargo:warning".toList <+: line.toList := by
    intro manifest hm hlines line hline
    rw [lines_watchDirectives (hlines manifest hm)] at hline
    exact not_warning_of_mem_watchDirectives hline
  cases h with
  | manifestUnset => exact ⟨fun _ _ => rfl, fun _ _ hline => by cases hline⟩
  | outputUnset => exact ⟨fun _ _ => rfl, fun _ _ hline => by cases hline⟩
  | settings hm => exact ⟨fun _ he => (nomatch he), hwatch _ hm⟩
  | schema hm => exact ⟨fun _ he => (nomatch he), hwatch _ hm⟩

theorem resultOf_eq_ok_iff {g g' : Generation} : resultOf g = .ok g' ↔ errorCount g.diagnostics = 0 ∧ g = g' := by
  rw [resultOf]
  cases errorCount g.diagnostics <;> simp

theorem resultOf_eq_error_iff {g : Generation} {e : BuildError} :
    resultOf g = .error e ↔ errorCount g.diagnostics ≠ 0 ∧ e = .reported (errorCount g.diagnostics) := by
  rw [resultOf]
  cases errorCount g.diagnostics <;> simp [eq_comm]

theorem Published.written_of_clean {directory index : String} {units : List BinderUnit} {p : Publication}
    (h : Published files directory index units p) (hclean : errorCount p.diagnostics = 0) :
    files.isWritable (Files.joinPath directory index) = true ∧
      p.written = units.map (BinderUnit.pathIn directory) := by
  obtain ⟨ds, hds, hindex⟩ := h.reports
  cases hwritable : files.isWritable (Files.joinPath directory index) with
  | false =>
    obtain ⟨reason, hdiagnostics⟩ : ∃ reason, p.diagnostics =
        ds ++ [.indexNotWritten (Files.joinPath directory index) reason] := by simpa [hwritable] using hindex
    simp [hdiagnostics, errorCount, Diagnostic.isError, Diagnostic.severity] at hclean
  | true =>
    have hdiagnostics : p.diagnostics = ds := by simpa [hwritable] using hindex
    rw [hdiagnostics, errorCount_eq_zero_iff_nil (Publication.isError_of_reportsUnit hds)] at hclean
    subst hclean
    have hall : (units.filter fun u => files.isWritable (u.pathIn directory)) = units := by
      rw [List.forall₂_nil_right_iff, List.filter_eq_nil_iff] at hds
      rw [List.filter_eq_self]
      intro u hu
      simpa using hds u hu
    exact ⟨rfl, by rw [h.written, hall]⟩

/-- What success leaves in the output directory: an index that includes every unit, and each unit in its file, unless
a later one, or the index, goes to the same place. -/
structure LeavesUnits (before : FileTree) (directory index : String) (units : List BinderUnit) (files : FileTree) :
    Prop where
  indexed : ∃ text, files.read (Files.joinPath directory index) = .ok text.toUTF8 ∧
    IsIndexOf text (units.map (BinderUnit.pathIn directory))
  kept : ∀ front u later, units = front ++ u :: later →
    (∀ v ∈ later, before.Apart (u.pathIn directory) (v.pathIn directory)) →
    before.Apart (u.pathIn directory) (Files.joinPath directory index) →
    ∃ text, u.render = .ok text ∧ files.read (u.pathIn directory) = .ok text.toUTF8

theorem Published.leavesUnits {directory index : String} {units : List BinderUnit} {p : Publication}
    (h : Published files directory index units p) (hclean : errorCount p.diagnostics = 0) :
    LeavesUnits files directory index units p.files := by
  obtain ⟨hwritable, hwritten⟩ := h.written_of_clean hclean
  refine ⟨⟨_, h.index_written hwritable, hwritten ▸ h.index_includes⟩, ?_⟩
  intro front u later hunits hlater hindex
  have hmem : u.pathIn directory ∈ p.written := by
    rw [hwritten, hunits]
    simp
  rw [h.written] at hmem
  obtain ⟨v, hv, hpath⟩ := List.mem_map.mp hmem
  have hu : files.isWritable (u.pathIn directory) = true := hpath ▸ (List.mem_filter.mp hv).2
  exact h.unit_kept front u later hunits hu hlater hindex

/-- An outcome whose result tells what has become of the build. Only a stopped build fails for anything but
reported errors, and it has changed no file and printed no warning. Success means that nothing is missing: each
host with bound fields has the unit that binds all of it, and these units are left in the output directory in the
order of host paths. -/
def BuildOutcome.Faithful (o : BuildOutcome) (context : BuildContext) (files : FileTree) (session : Session) : Prop :=
  match o.result with
  | .ok g =>
    ∃ c : Completion context files session, o = c.outcome ∧ errorCount c.diagnostics = 0 ∧
      List.Forall₂ Host.BoundBy session.schema.boundHosts g.units ∧
      (session.schema.boundHosts.Pairwise fun a b => a.name.path < b.name.path) ∧
      LeavesUnits files c.output c.settings.output g.units o.files
  | .error (.reported n) =>
    ∃ c : Completion context files session, o = c.outcome ∧ errorCount c.diagnostics = n ∧ 0 < n
  | .error e =>
    ∃ printed, Stops context files session e printed ∧ o = ⟨.error e, unlines printed, files, session⟩ ∧
      PrintsNoWarning context e o.output

/-- A build has an outcome, and its result tells what has become of it. -/
theorem build_faithful (context : BuildContext) (files : FileTree) {session : Session}
    (hpassed : session.passed = true → session.schema.check = .ok ()) :
    ∃ o, build context files session = .ok o ∧ o.Faithful context files session := by
  rcases build_stops_or_completes context files hpassed with ⟨e, printed, hstops, hbuild⟩ | ⟨c, hbuild⟩
  · refine ⟨_, hbuild, ?_⟩
    have hprinted := hstops.printsNoWarning
    cases hstops with
    | manifestUnset hm => exact ⟨_, .manifestUnset hm, rfl, hprinted⟩
    | outputUnset hm ho => exact ⟨_, .outputUnset hm ho, rfl, hprinted⟩
    | settings hm ho hs => exact ⟨_, .settings hm ho hs, rfl, hprinted⟩
    | schema hm ho hs hc => exact ⟨_, .schema hm ho hs hc, rfl, hprinted⟩
  · refine ⟨_, hbuild, ?_⟩
    rw [BuildOutcome.Faithful]
    cases hr : c.outcome.result with
    | error e =>
      obtain ⟨hne, rfl⟩ := resultOf_eq_error_iff.mp hr
      exact ⟨c, rfl, rfl, Nat.pos_of_ne_zero hne⟩
    | ok g =>
      obtain ⟨hzero, rfl⟩ := resultOf_eq_ok_iff.mp hr
      have hparts := hzero
      rw [Completion.diagnostics, errorCount_append, Nat.add_eq_zero_iff] at hparts
      obtain ⟨hgeneration, hpublication⟩ := hparts
      have hpass := generate_eq_ok_iff.mp c.generated
      obtain ⟨added, hunits, _, _, hiff⟩ := hpass.clean_iff (session.schema.byType_conforming c.settings.baseType)
      obtain rfl : c.generation.units = added := hunits
      exact ⟨c, rfl, hzero, hiff.mp hgeneration, session.schema.boundHosts_paths_increase,
        (published_of_publish c.published).leavesUnits hpublication⟩

theorem build_checked_faithful :
    let context : BuildContext := ⟨some "manifest", some "out", .none⟩
    let files : FileTree := ⟨[(["manifest"], .directory), (["out"], .directory)], []⟩
    let session : Session := ⟨.ofNodes [.host ⟨⟨"app", "Main"⟩, [⟨"title", "w::Label", 1⟩]⟩], true⟩
    (session.passed = true → session.schema.check = .ok ()) ∧
      ∃ o, build context files session = .ok o ∧ o.Faithful context files session := by
  intro context files session
  have hcheck : session.schema.check = .ok () := by with_unfolding_all rfl
  exact ⟨fun _ => hcheck, build_faithful context files fun _ => hcheck⟩

/-- A line feed in the manifest directory lets the name of the settings file go on in a line that is a warning, though
the schema is refused and nothing is generated; and a build succeeds whose index has taken the file of its unit. -/
theorem refused_build_warns_and_index_takes_unit :
    let refused : Schema := .ofNodes [.host ⟨⟨"app", "Main"⟩, [⟨"", "w::Label", 1⟩]⟩]
    let accepted : Schema := .ofNodes [.component ⟨⟨"viewbind::ui", "View"⟩, none⟩,
      .component ⟨⟨"w", "Label"⟩, some "viewbind::ui::View"⟩,
      .host ⟨⟨"app", "Main"⟩, [⟨"title", "w::Label", 1⟩]⟩]
    let settingsText := "[build]\noutput = \"app_main_view_binder.rs\"\n"
    let broken : FileTree := ⟨[(["m\ncargo:warning=x"], .directory), (["out"], .directory)], []⟩
    let plain : FileTree := ⟨[(["manifest"], .directory), (["out"], .directory),
      (["manifest", "viewbind.toml"], .file settingsText.toUTF8)], []⟩
    (build ⟨some "m\ncargo:warning=x", some "out", .none⟩ broken (.start refused)).map (fun o =>
        ((o.result.mapError BuildError.message).map fun g => g.units.length, lines o.output)) =
      .ok (.error "validation failed: app::Main.: ident is empty",
        ["cargo:rerun-if-changed=build.rs", "cargo:rerun-if-changed=m", "cargo:warning=x/viewbind.toml"]) ∧
    (build ⟨some "manifest", some "out", .none⟩ plain (.start accepted)).map (fun o =>
        ((o.result.mapError BuildError.message).map fun g => g.units.map fun u => (u.hostPath, u.pathIn "out"),
          o.files.readText "out/app_main_view_binder.rs")) =
      .ok (.ok [("app::Main", "out/app_main_view_binder.rs")],
        .ok "// @generated by viewbind\ninclude!(\"out/app_main_view_binder.rs\");\n") := by
  intro refused accepted settingsText broken plain
  exact ⟨by decide +kernel, by decide +kernel⟩

end HostBinder

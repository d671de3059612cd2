import HostBinder.Proofs.Binder.ReportTexts
import HostBinder.Proofs.Build.Outcome

set_option autoImplicit false

/-!
The directives of a build and the lines they are read as. A build that comes to report prints what to watch and a
warning for each diagnostic. Texts are quoted there as they are, so it is one line for each directive exactly if the
manifest directory and all that is quoted have no line feed; the names of a checked schema never have one.
-/

namespace HostBinder

open Text

def BuildOutcome.hasReported (o : BuildOutcome) : Bool :=
  match o.result with
  | .ok _ => true
  | .error (.reported _) => true
  | .error _ => false

structure Reporting (context : BuildContext) (files : FileTree) (session : Session) (o : BuildOutcome) where
  manifest : String
  directory : String
  settings : Settings
  schema : Schema
  generation : Generation
  manifest_told : context.manifestDirectory? = some manifest
  directory_told : context.outputDirectory? = some directory
  settings_read : settingsOfDirectory files manifest = .ok settings
  schema_read : session.read.1 = .ok schema
  generated : generateInto files directory schema settings (.resolve context.roots) = .ok (generation, o.files)
  result : o.result = resultOf generation
  output : o.output = unlines (watchDirectives manifest ++ generation.diagnostics.map warningDirective)

variable {context : BuildContext} {files : FileTree} {session : Session} {o : BuildOutcome}

theorem exists_reporting (hbuild : build context files session = .ok o) (hreported : o.hasReported = true) :
    Nonempty (Reporting context files session o) := by
  cases hm : context.manifestDirectory? with
  | none =>
    simp only [build, hm] at hbuild
    cases hbuild
    cases hreported
  | some manifest =>
    cases hd : context.outputDirectory? with
    | none =>
      simp only [build, hm, hd] at hbuild
      cases hbuild
      cases hreported
    | some directory =>
      cases hs : settingsOfDirectory files manifest with
      | error reason =>
        simp only [build, hm, hd, hs] at hbuild
        cases hbuild
        cases hreported
      | ok settings =>
        cases hread : session.read with
        | mk answer session' =>
          cases answer with
          | error report =>
            simp only [build, hm, hd, hs, hread] at hbuild
            cases hbuild
            cases hreported
          | ok schema =>
            simp only [build, hm, hd, hs, hread, Attempt.bind_eq_ok_iff, Attempt.pure_eq_ok_iff] at hbuild
            obtain ⟨⟨generation, files'⟩, hgenerated, rfl⟩ := hbuild
            have hschema : session.read.1 = .ok schema := by rw [hread]
            exact ⟨⟨manifest, directory, settings, schema, generation, hm, hd, hs, hschema, hgenerated, rfl, rfl⟩⟩

namespace Reporting

def directives (r : Reporting context files session o) : List String :=
  watchDirectives r.manifest ++ r.generation.diagnostics.map warningDirective

/-- The texts that a build takes from outside and can quote have no line feed. The names in a schema need not be looked
at where it passes its check. -/
structure IsOneLined (r : Reporting context files session o) : Prop where
  manifest : IsOneLine r.manifest
  directory : IsOneLine r.directory
  base : IsOneLine r.settings.baseType
  index : IsOneLine r.settings.output
  modulePath : ∀ h ∈ r.schema.boundHosts, IsOneLine h.name.modulePath
  types : ∀ h ∈ r.schema.boundHosts, ∀ b ∈ h.bindings, IsOneLine b.type
  names : r.schema.check = .ok () ∨
    ∀ h ∈ r.schema.boundHosts, IsOneLine h.name.ident ∧ ∀ b ∈ h.bindings, IsOneLine b.field

/-- How the output of a build is read line by line. -/
structure ReadByLine (r : Reporting context files session o) : Prop where
  lines_eq : lines o.output = r.directives.flatMap printedLines
  length : (lines o.output).length =
    2 + r.generation.diagnostics.length + (r.directives.map fun l => l.toList.count '\n').sum
  /-- The lines are the directives exactly if nothing that is quoted breaks a line. -/
  exact_iff : lines o.output = r.directives ↔
    IsOneLine r.manifest ∧ ∀ d ∈ r.generation.diagnostics, ∀ s ∈ d.quoted, IsOneLine s
  of_oneLined : r.IsOneLined → lines o.output = r.directives

variable (r : Reporting context files session o)

theorem comesFrom : ∀ d ∈ r.generation.diagnostics,
    d.ComesFrom r.schema.boundHosts r.settings.baseType r.directory r.settings.output := by
  obtain ⟨g, p, hg, hp, hgeneration, _⟩ := generateInto_eq_ok_iff.mp r.generated
  rw [hgeneration, List.forall_mem_append]
  exact ⟨comesFrom_of_generate hg _ _, comesFrom_of_publish hp (isFor_of_generate hg) _⟩

theorem not_endsInReturn : ∀ l ∈ r.directives, ¬EndsInReturn l := by
  rw [directives, List.forall_mem_append, List.forall_mem_map]
  constructor
  · exact fun l => not_endsInReturn_of_mem_watchDirectives
  · intro d hd
    have htext : d.text ≠ "" := by
      rw [Diagnostic.text]
      cases d.severity <;> simp [Severity.name]
    exact not_endsInReturn_append htext (r.comesFrom d hd).not_endsInReturn

theorem isOneLine_directives_iff : (∀ l ∈ r.directives, IsOneLine l) ↔
    IsOneLine r.manifest ∧ ∀ d ∈ r.generation.diagnostics, ∀ s ∈ d.quoted, IsOneLine s := by
  have hscript : IsOneLine "cargo:rerun-if-changed=build.rs" := by decide
  have hwatch : IsOneLine "cargo:rerun-if-changed=" := by decide
  have hwarning : IsOneLine "cargo:warning=" := by decide
  simp only [directives, watchDirectives, warningDirective, List.forall_mem_append, List.forall_mem_map,
    List.forall_mem_cons, List.not_mem_nil, false_implies, forall_const, and_true, isOneLine_append, hscript, hwatch,
    hwarning, true_and, isOneLine_settingsPath, Diagnostic.isOneLine_text_iff]

theorem IsOneLined.hosts {r : Reporting context files session o} (hr : r.IsOneLined) :
    ∀ h ∈ r.schema.boundHosts, h.IsOneLined := by
  intro h hh
  have hnames : IsOneLine h.name.ident ∧ ∀ b ∈ h.bindings, IsOneLine b.field := by
    rcases hr.names with hcheck | hnames
    · obtain ⟨hident, hfields⟩ := Schema.isIdentifier_of_check hcheck hh
      exact ⟨isOneLine_of_isIdentifier hident, fun b hb => isOneLine_of_isIdentifier (hfields b hb)⟩
    · exact hnames h hh
  exact ⟨hr.modulePath h hh, hnames.1, fun b hb => ⟨hnames.2 b hb, hr.types h hh b hb⟩⟩

theorem readByLine : r.ReadByLine where
  lines_eq := by rw [r.output, lines_unlines, directives]
  length := by
    rw [r.output, length_lines_unlines, directives, List.length_append, List.length_map]
    rfl
  exact_iff := by
    rw [← r.isOneLine_directives_iff, ← lines_unlines_eq_self_iff r.not_endsInReturn, r.output, directives]
  of_oneLined := by
    intro hr
    rw [r.output, ← directives, lines_unlines_eq_self_iff r.not_endsInReturn, r.isOneLine_directives_iff]
    exact ⟨hr.manifest, fun d hd => (r.comesFrom d hd).isOneLine_quoted hr.hosts hr.base hr.directory hr.index⟩

end Reporting

/-- A build that reports is read line by line as it has printed: one line for each directive, but for line feeds in
what it quotes. -/
theorem build_readByLine (hbuild : build context files session = .ok o) (hreported : o.hasReported = true) :
    ∃ r : Reporting context files session o, r.ReadByLine := by
  obtain ⟨r⟩ := exists_reporting hbuild hreported
  exact ⟨r, r.readByLine⟩

def titleScreen : Schema :=
  .ofNodes [.component ⟨⟨"viewbind::ui", "View"⟩, none⟩,
    .host ⟨⟨"app", "Main"⟩, [⟨"title", "std::string::String", 1⟩]⟩]

theorem build_titleScreen_readByLine :
    let context : BuildContext := ⟨some "manifest", some "out", .none⟩
    let files : FileTree := ⟨[(["manifest"], .directory), (["out"], .directory)], []⟩
    ∃ o, build context files (.start titleScreen) = .ok o ∧ o.hasReported = true ∧
      ∃ r : Reporting context files (.start titleScreen) o, r.ReadByLine := by
  intro context files
  have hreports : (build context files (.start titleScreen)).map BuildOutcome.hasReported = .ok true := by
    decide +kernel
  cases ho : build context files (.start titleScreen) with
  | error err =>
    rw [ho] at hreports
    cases hreports
  | ok o =>
    rw [ho] at hreports
    have hreported : o.hasReported = true := Except.ok.inj hreports
    exact ⟨o, rfl, hreported, build_readByLine ho hreported⟩

/-- A line feed in the base type lets the report on a field go on in a line that is no warning. -/
theorem base_type_starts_directive :
    let text := "[build]\nbase_type = \"w::View\\ncargo:rustc-cfg=extra\"\n"
    let context : BuildContext := ⟨some "manifest", some "out", .none⟩
    let files : FileTree := ⟨[(["manifest"], .directory), (["out"], .directory),
      (["manifest", "viewbind.toml"], .file text.toUTF8)], []⟩
    (build context files (.start titleScreen)).map (fun o =>
      ((o.result.mapError BuildError.message).map fun g => g.units.length, lines o.output)) =
    .ok (.error "binder generation reported 1 error(s)",
      ["cargo:rerun-if-changed=build.rs", "cargo:rerun-if-changed=manifest/viewbind.toml",
        "cargo:warning=error: field 'title' on host 'app::Main' has type 'std::string::String', " ++
          "which does not extend 'w::View",
        "cargo:rustc-cfg=extra'"]) := by
  intro text context files
  decide +kernel

end HostBinder

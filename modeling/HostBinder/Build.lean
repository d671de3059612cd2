import HostBinder.Binder.Generation
import HostBinder.Binder.Publication
import HostBinder.Config.File
import HostBinder.Schema.Session
import HostBinder.Text.Segments

set_option autoImplicit false

/-!
A build of all binders: it reads the settings of the package, takes the checked schema, generates, and writes
to the output directory. What it prints are directives for the build tool, one a line: what to watch, and a
warning for each diagnostic. It fails after everything is written if an error was reported.
-/

namespace HostBinder

open Code

structure BuildContext where
  manifestDirectory? : Option String
  outputDirectory? : Option String
  roots : RootOverrides

inductive BuildError where
  | unset (variableName : String)
  | settings (reason : SettingsFileError)
  | schema (report : RoutedErrors Violation)
  | reported (count : Nat)

def BuildError.message : BuildError → String
  | .unset variableName => variableName ++ " is not set"
  | .settings reason => reason.message
  | .schema report => refusalMessage report
  | .reported count => "binder generation reported " ++ toString count ++ " error(s)"

/-- How a build has ended, with what it has printed and what it leaves behind. -/
structure BuildOutcome where
  result : Except BuildError Generation
  output : String
  files : FileTree
  session : Session

def watchDirectives (manifestDirectory : String) : List String :=
  ["cargo:rerun-if-changed=build.rs", "cargo:rerun-if-changed=" ++ settingsPath manifestDirectory]

def warningDirective (d : Diagnostic) : String := "cargo:warning=" ++ d.text

def generateInto (files : FileTree) (directory : String) (schema : Schema) (settings : Settings)
    (roots : CrateRoots) : Except MalformedIdent (Generation × FileTree) := do
  let g ← generate schema settings roots
  let p ← publish files directory settings.output g.units
  return (⟨g.units, g.diagnostics ++ p.diagnostics, g.events ++ p.events⟩, p.files)

def resultOf (g : Generation) : Except BuildError Generation :=
  match errorCount g.diagnostics with
  | 0 => .ok g
  | n => .error (.reported n)

def build (context : BuildContext) (files : FileTree) (session : Session) :
    Except MalformedIdent BuildOutcome := do
  let fail (e : BuildError) (printed : List String) (session : Session) : BuildOutcome :=
    ⟨.error e, Text.unlines printed, files, session⟩
  match context.manifestDirectory?, context.outputDirectory? with
  | none, _ => return fail (.unset "CARGO_MANIFEST_DIR") [] session
  | some _, none => return fail (.unset "OUT_DIR") [] session
  | some manifest, some output =>
    let watched := watchDirectives manifest
    match settingsOfDirectory files manifest with
    | .error e => return fail (.settings e) watched session
    | .ok settings =>
      match session.read with
      | (.error report, session) => return fail (.schema report) watched session
      | (.ok schema, session) =>
        let (g, files) ← generateInto files output schema settings (.resolve context.roots)
        return ⟨resultOf g, Text.unlines (watched ++ g.diagnostics.map warningDirective), files, session⟩

end HostBinder

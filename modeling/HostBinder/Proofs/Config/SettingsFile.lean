import HostBinder.Config.File
import HostBinder.Proofs.Config.GivenSettings
import HostBinder.Proofs.Files.Reading

set_option autoImplicit false

namespace HostBinder

open Config

/-- Settings are those that are given, in a document, in its text or in the settings file of a directory. -/
structure SettingsGiven (files : FileTree) (directory : String) : Prop where
  document : ∀ {origin : TableOrigin} {entries : List (String × ConfigValue)},
    (ConfigValue.table origin entries).KeyedOnce → ∀ s, settingsOfEntries entries = .ok s ↔ s.GivenBy entries
  /-- The order of keys changes nothing, nor which problem is told. -/
  order : ∀ {origin : TableOrigin} {entries entries' : List (String × ConfigValue)},
    (ConfigValue.table origin entries).KeyedOnce → entries.Perm entries' →
      settingsOfEntries entries' = settingsOfEntries entries ∧
        settingsOfValue (.table origin entries') = settingsOfValue (.table origin entries)
  text : ∀ text s, settingsOfText text = .ok s ↔ ∃ entries, document? text = some entries ∧ s.GivenBy entries
  present : ∀ text, files.HasText (settingsPath directory) text →
    settingsOfDirectory files directory = (settingsOfText text).mapError (.invalid (settingsPath directory))
  missing : files.IsMissing (settingsPath directory) → settingsOfDirectory files directory = .ok .default
  unreadable : (∀ text, ¬files.HasText (settingsPath directory) text) → ¬files.IsMissing (settingsPath directory) →
    ∃ reason, files.readText (settingsPath directory) = .error reason ∧
      settingsOfDirectory files directory = .error (.unreadable (settingsPath directory) reason)

theorem isFileName_settingsFileName : FileTree.IsFileName settingsFileName where
  ne_empty := by decide
  no_slash := by decide
  ne_dot := by decide
  ne_dots := by decide
  fits := by decide

theorem readText_settingsPath_eq_ok_iff {files : FileTree} {directory text : String} :
    files.readText (settingsPath directory) = .ok text ↔ files.HasText (settingsPath directory) text :=
  FileTree.readText_joinPath_eq_ok_iff isFileName_settingsFileName

theorem readText_settingsPath_eq_notFound_iff {files : FileTree} {directory : String} :
    files.readText (settingsPath directory) = .error .notFound ↔ files.IsMissing (settingsPath directory) :=
  FileTree.readText_joinPath_eq_notFound_iff isFileName_settingsFileName

theorem settings_given (files : FileTree) (directory : String) : SettingsGiven files directory where
  document := fun hkeyed _ => settingsOfEntries_eq_ok_iff hkeyed
  order := by
    intro origin _ _ hkeyed hperm
    cases hkeyed with
    | table hdiffer _ =>
      refine ⟨?_, settingsOfValue_eq_of_perm hdiffer hperm origin⟩
      rw [settingsOfEntries, settingsOfEntries, sortedEntries_eq_of_perm hdiffer hperm]
  text := fun _ _ => settingsOfText_eq_ok_iff
  present := by
    intro text h
    rw [settingsOfDirectory, readText_settingsPath_eq_ok_iff.mpr h]
  missing := by
    intro h
    rw [settingsOfDirectory, readText_settingsPath_eq_notFound_iff.mpr h]
  unreadable := by
    intro hnone hthere
    cases hread : files.readText (settingsPath directory) with
    | ok text => exact absurd (readText_settingsPath_eq_ok_iff.mp hread) (hnone text)
    | error reason =>
      refine ⟨reason, rfl, ?_⟩
      have hother : reason ≠ .notFound := by
        rintro rfl
        exact hthere (readText_settingsPath_eq_notFound_iff.mp hread)
      rw [settingsOfDirectory, hread]
      cases reason <;> first | rfl | exact absurd rfl hother

theorem policy_with_empty_array :
    ∃ v, document? "[build]\ninvalid_fields.abort = []" = some [("build", .table .header [("invalid_fields", v)])] ∧
      (¬∃ p : InvalidFieldPolicy,
        v = .string p.name ∨ ∃ origin origin', v = .table origin [(p.name, .table origin' [])]) ∧
      settingsOfText "[build]\ninvalid_fields.abort = []" = .ok { Settings.default with invalidFields := .abort } := by
  refine ⟨.table .dotted [("abort", .array false [])], rfl, ?_, by decide +kernel⟩
  rintro ⟨p, h | ⟨_, _, h⟩⟩
  · cases h
  · simp at h

end HostBinder

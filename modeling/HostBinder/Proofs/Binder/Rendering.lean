import HostBinder.Proofs.Binder.Pass
import HostBinder.Proofs.Binder.UnitCode
import HostBinder.Proofs.Code.Names

set_option autoImplicit false

namespace HostBinder

open Code

/-- The statement assigns to the field of that name what is looked up under the id, as of the type referred to. -/
def Assignment.WrittenAs (a : Assignment) (core statement : Tokens) : Prop :=
  ∃ field type, field.Spells a.field ∧ a.type.CodedAs type ∧ AssignsField core field type a.id.toInt a.field statement

/-- What is known of the code of a unit: the method of its binder type has the statements of the assignments, in turn,
and nothing between them. -/
structure BinderUnit.WritesAll (u : BinderUnit) : Prop where
  method : ∃ before method statements after,
    u.body = .ok (before ++ [.ident ⟨"impl", false⟩, .ident ⟨u.name, false⟩, .group .brace method] ++ after) ∧
    IsInjectMethod u.roots.core ⟨u.host, false⟩ statements.flatten method ∧
    List.Forall₂ (fun a statement => a.WrittenAs u.roots.core statement) u.assignments statements
  once : (u.assignments.map Assignment.field).Nodup

namespace BinderUnit

variable {u : BinderUnit}

theorem render_of_body {tokens : Tokens} (h : u.body = .ok tokens) :
    u.render = .ok (u.packageSection ++ u.importSection ++ textOf tokens ++ "\n\x7d\n") := by
  rw [render, h]
  rfl

end BinderUnit

theorem Host.map_field_declarations (h : Host) : h.declarations.map FieldDecl.field = h.bindings.map Binding.field := by
  rw [declarations, List.map_map]
  rfl

theorem Host.writesAll_unit {h : Host} {conforms : FieldDecl → Bool} {policy : InvalidFieldPolicy} {roots : CrateRoots}
    {results : List (Option (Except Diagnostic Assignment))} (hrules : h.brokenRules = 0)
    (htreated : List.Forall₂ (Treated (h.group.imports conforms) policy h.group.path) h.group.declarations results) :
    (h.group.unit conforms roots (assignmentsOf results)).WritesAll := by
  obtain ⟨hhost, hfields⟩ := h.isIdentifier_of_brokenRules hrules
  have hsublist := fields_assignmentsOf_sublist htreated
  have hdeclared : h.group.declarations.map FieldDecl.field = h.bindings.map Binding.field := h.map_field_declarations
  rw [hdeclared] at hsublist
  have hwritten : ∀ a ∈ assignmentsOf results, ∃ statement,
      BinderUnit.statement? roots a = .ok statement ∧ a.WrittenAs roots.core statement := by
    intro a ha
    obtain ⟨field, type, hfield, htype⟩ := exists_code_of_mem_assignmentsOf htreated ha
    obtain ⟨b, hb, heq⟩ := List.mem_map.mp (hsublist.subset (List.mem_map_of_mem ha))
    have hspells := spells_of_fieldIdent? (heq ▸ hfields b hb) hfield
    exact ⟨_, BinderUnit.statement?_eq_ok hfield htype, field, type, hspells, TypeRef.codedAs_of_tokens? htype,
      BinderUnit.assignsField_statement roots field type a⟩
  choose! statement hstatement hwrites using hwritten
  have hstatements : (assignmentsOf results).mapM (BinderUnit.statement? roots) =
      .ok ((assignmentsOf results).map statement) :=
    Attempt.mapM_eq_ok_iff.mpr (List.forall₂_map_right_iff.mpr (List.forall₂_same.mpr hstatement))
  have htext := isIdentText_of_isIdentifier hhost
  have hbody := BinderUnit.body_eq_ok (u := h.group.unit conforms roots (assignmentsOf results))
    (identOf_of_isIdentText htext) (identOf_of_isIdentText (isIdentText_binderName htext)) hstatements
  exact ⟨⟨_, _, _, _, hbody, BinderUnit.isInjectMethod_injectMethod roots _ _,
    List.forall₂_map_right_iff.mpr (List.forall₂_same.mpr hwrites)⟩,
    (h.nodup_fields_of_brokenRules hrules).sublist hsublist⟩

theorem exists_generate {s : Schema} (hcheck : s.check = .ok ()) (settings : Settings) (roots : CrateRoots) :
    ∃ g, generate s settings roots = .ok g := by
  cases hg : generate s settings roots with
  | error err =>
    obtain ⟨host, hhost, b, _, hb, _, hident⟩ := Schema.stoppedBy_of_generate hg
    obtain ⟨i, hi⟩ := exists_fieldIdent?_of_isIdentifier ((s.isIdentifier_of_check hcheck hhost).2 b hb)
    rw [hi] at hident
    cases hident
  | ok g => exact ⟨g, rfl⟩

theorem Generation.writesAll_of_check {s : Schema} (hcheck : s.check = .ok ()) {settings : Settings}
    {roots : CrateRoots} {g : Generation} (hg : generate s settings roots = .ok g) {u : BinderUnit}
    (hu : u ∈ g.units) : u.roots = roots ∧ u.WritesAll := by
  rcases (generate_eq_ok_iff.mp hg).emitted_of_mem hu with hu | ⟨_, hgroup, e, hemitted, hunit⟩
  · cases hu
  · obtain ⟨host, hhost, rfl⟩ := List.mem_map.mp hgroup
    obtain ⟨_, results, htreated, rfl⟩ := hemitted.eq_unit hunit
    exact ⟨rfl, host.writesAll_unit (Schema.brokenRules_of_check hcheck hhost) htreated⟩

theorem exists_generate_of_check {s : Schema} (hcheck : s.check = .ok ()) (settings : Settings) (roots : CrateRoots) :
    ∃ g, generate s settings roots = .ok g ∧ ∀ u ∈ g.units, ∃ text, u.render = .ok text := by
  obtain ⟨g, hg⟩ := exists_generate hcheck settings roots
  refine ⟨g, hg, fun u hu => ?_⟩
  obtain ⟨_, hwrites⟩ := g.writesAll_of_check hcheck hg hu
  obtain ⟨_, _, _, _, hbody, _⟩ := hwrites.method
  exact ⟨_, BinderUnit.render_of_body hbody⟩

/-- A schema that passes its check is generated from, and the text of every unit is that of a body which writes all
the assignments. -/
theorem generate_writes_assignments {s : Schema} (hcheck : s.check = .ok ()) (settings : Settings)
    (roots : CrateRoots) :
    ∃ g, generate s settings roots = .ok g ∧ ∀ u ∈ g.units, u.roots = roots ∧ u.WritesAll ∧
      ∃ tokens, u.body = .ok tokens ∧
        u.render = .ok (u.packageSection ++ u.importSection ++ textOf tokens ++ "\n\x7d\n") := by
  obtain ⟨g, hg⟩ := exists_generate hcheck settings roots
  refine ⟨g, hg, fun u hu => ?_⟩
  obtain ⟨hroots, hwrites⟩ := g.writesAll_of_check hcheck hg hu
  obtain ⟨_, _, _, _, hbody, _⟩ := hwrites.method
  exact ⟨hroots, hwrites, _, hbody, BinderUnit.render_of_body hbody⟩

def formScreen : Schema :=
  .ofNodes [.component ⟨⟨"viewbind::ui", "View"⟩, none⟩, .component ⟨⟨"w", "Label"⟩, some "viewbind::ui::View"⟩,
    .host ⟨⟨"app", "Form"⟩, [⟨"type", "w::Label", -3⟩, ⟨"text", "std::string::String", 7⟩]⟩]

theorem generate_formScreen_writes :
    formScreen.check = .ok () ∧
      ∃ g, generate formScreen { Settings.default with invalidFields := .emit } (.resolve .none) = .ok g ∧
        g.units.map BinderUnit.assignments =
          [[⟨"type", .imported "Label", -3⟩, ⟨"text", .qualified "std::string::String", 7⟩]] ∧
        ∀ u ∈ g.units, u.roots = .resolve .none ∧ u.WritesAll ∧
          ∃ tokens, u.body = .ok tokens ∧
            u.render = .ok (u.packageSection ++ u.importSection ++ textOf tokens ++ "\n\x7d\n") := by
  have hcheck : formScreen.check = .ok () := Schema.check_eq_ok_iff.mpr (by decide +kernel)
  obtain ⟨g, hg, hwrites⟩ :=
    generate_writes_assignments hcheck { Settings.default with invalidFields := .emit } (.resolve .none)
  have hassignments : (generate formScreen { Settings.default with invalidFields := .emit } (.resolve .none)).map
      (fun g => g.units.map BinderUnit.assignments) =
        .ok [[⟨"type", .imported "Label", -3⟩, ⟨"text", .qualified "std::string::String", 7⟩]] := by
    decide +kernel
  rw [hg] at hassignments
  exact ⟨hcheck, g, hg, Except.ok.inj hassignments, hwrites⟩

end HostBinder

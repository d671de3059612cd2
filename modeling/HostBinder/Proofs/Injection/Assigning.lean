import HostBinder.Proofs.Binder.Conformance
import HostBinder.Proofs.Binder.LocalNames
import HostBinder.Proofs.Injection.Registrations

set_option autoImplicit false

namespace HostBinder

namespace Target

variable {t t₁ : Target} {b : Binding} {bs done rest : List Binding}

/-- Whether a field takes the view that is looked up for it: there is none, or it is of the type of the field. -/
def Fits (t : Target) (b : Binding) : Prop := ∀ v ∈ t.findView? b.id, v.type = b.type

instance (t : Target) : DecidablePred t.Fits :=
  fun b => inferInstanceAs (Decidable (∀ v ∈ t.findView? b.id, v.type = b.type))

def boundFor (t : Target) (b : Binding) : Bound := ⟨b.type, t.findView? b.id⟩

theorem assign_of_fits (h : t.Fits b) : t.assign b = .ok (t.setField b.field (t.boundFor b)) := by
  have hcast : Bound.cast b.type (t.findView? b.id) b.id b.field = .ok (t.boundFor b) := by
    rw [boundFor]
    cases hview : t.findView? b.id with
    | none => rfl
    | some v => exact if_pos (h v hview)
  rw [assign, hcast]
  rfl

theorem assign_of_not_fits (h : ¬t.Fits b) : t.assign b = .error (.castMismatch b.id b.field b.type) := by
  have hcast : Bound.cast b.type (t.findView? b.id) b.id b.field = .error (.castMismatch b.id b.field b.type) := by
    unfold Fits at h
    cases hview : t.findView? b.id with
    | none => simp [hview] at h
    | some v => exact if_neg (by simpa [hview] using h)
  rw [assign, hcast]
  rfl

/-- A field from before to after views were bound to the fields of `done`, which were looked up in `t`. -/
structure FieldAssigned (t : Target) (done : List Binding) (before after : String × Bound) : Prop where
  name : after.1 = before.1
  bound : ∀ b ∈ done, b.field = before.1 → after.2 = t.boundFor b
  kept : before.1 ∉ done.map Binding.field → after.2 = before.2

/-- The host `t₁` is `t` with views bound to the fields of `done`; the rest of it is as it was. -/
structure Assigned (t : Target) (done : List Binding) (t₁ : Target) : Prop where
  type : t₁.type = t.type
  views : t₁.views = t.views
  fields : List.Forall₂ (t.FieldAssigned done) t.fields t₁.fields

namespace Assigned

theorem nil (t : Target) : t.Assigned [] t where
  type := rfl
  views := rfl
  fields := List.forall₂_same.mpr fun _ _ => ⟨rfl, fun _ h => absurd h List.not_mem_nil, fun _ => rfl⟩

theorem findView? (h : t.Assigned done t₁) (id : Int32) : t₁.findView? id = t.findView? id := by
  rw [Target.findView?, h.views, Target.findView?]

theorem fits_iff (h : t.Assigned done t₁) : t₁.Fits b ↔ t.Fits b := by
  rw [Fits, h.findView?, Fits]

theorem boundFor_eq (h : t.Assigned done t₁) (b : Binding) : t₁.boundFor b = t.boundFor b := by
  rw [boundFor, h.findView?, boundFor]

theorem setField (h : t.Assigned done t₁) (hnew : b.field ∉ done.map Binding.field) :
    t.Assigned (done ++ [b]) (t₁.setField b.field (t.boundFor b)) where
  type := h.type
  views := h.views
  fields := by
    refine List.forall₂_map_right_iff.mpr (h.fields.imp fun before after hone => ?_)
    by_cases heq : after.1 = b.field
    · have hname : b.field = before.1 := heq.symm.trans hone.name
      rw [if_pos heq]
      refine ⟨hname, fun c hc hcname => ?_, fun hkept => ?_⟩
      · rcases List.mem_append.mp hc with hc | hc
        · exact absurd (List.mem_map.mpr ⟨c, hc, hcname.trans hname.symm⟩) hnew
        · rw [List.mem_singleton.mp hc]
      · exact absurd (by simp [hname]) hkept
    · have hname : b.field ≠ before.1 := fun hb => heq (hone.name.trans hb.symm)
      rw [if_neg heq]
      refine ⟨hone.name, fun c hc hcname => ?_, fun hkept => hone.kept fun hmem => hkept ?_⟩
      · rcases List.mem_append.mp hc with hc | hc
        · exact hone.bound c hc hcname
        · exact absurd (List.mem_singleton.mp hc ▸ hcname) hname
      · rw [List.map_append]
        exact List.mem_append_left _ hmem

theorem assignAll (h : t.Assigned done t₁) (hdistinct : ((done ++ bs).map Binding.field).Nodup)
    (hfits : ∀ b ∈ bs, t.Fits b) :
    ∃ t₂, t.Assigned (done ++ bs) t₂ ∧ ∀ rest, Target.assignAll (bs ++ rest) t₁ = Target.assignAll rest t₂ := by
  induction bs generalizing done t₁ with
  | nil => exact ⟨t₁, by rwa [List.append_nil], fun rest => rfl⟩
  | cons b bs ih =>
    obtain ⟨hb, hbs⟩ := List.forall_mem_cons.mp hfits
    have hnew : b.field ∉ done.map Binding.field := by
      rw [List.map_append, List.nodup_append] at hdistinct
      exact fun hmem => hdistinct.2.2 _ hmem _ (List.mem_map_of_mem List.mem_cons_self) rfl
    have hassign := assign_of_fits (h.fits_iff.mpr hb)
    rw [h.boundFor_eq] at hassign
    rw [List.append_cons] at hdistinct ⊢
    obtain ⟨t₂, ht₂, hrest⟩ := ih (h.setField hnew) hdistinct hbs
    refine ⟨t₂, ht₂, fun rest => ?_⟩
    rw [List.cons_append, Target.assignAll, hassign]
    exact hrest rest

theorem field?_of_not_mem (h : t.Assigned done t₁) {name : String} (hname : name ∉ done.map Binding.field) :
    t₁.field? name = t.field? name := by
  have hfields := h.fields
  rw [Target.field?, Target.field?]
  generalize t.fields = before, t₁.fields = after at hfields
  induction hfields with
  | nil => rfl
  | @cons f f₁ _ _ hone _ ih =>
    rw [List.lookup_cons, List.lookup_cons, hone.name, ih]
    by_cases heq : name = f.1
    · rw [hone.kept (heq ▸ hname)]
    · rw [beq_false_of_ne heq]

end Assigned

theorem assignAll_of_fits (t : Target) (hdistinct : (bs.map Binding.field).Nodup) (hfits : ∀ b ∈ bs, t.Fits b) :
    ∃ t₁, t.Assigned bs t₁ ∧ t.assignAll bs = (.ok (), t₁) := by
  obtain ⟨t₁, ht₁, hrest⟩ := (Assigned.nil t).assignAll hdistinct hfits
  refine ⟨t₁, ht₁, ?_⟩
  rw [← List.append_nil bs]
  exact hrest []

theorem assignAll_of_not_fits (t : Target) (hdistinct : ((done ++ b :: rest).map Binding.field).Nodup)
    (hfits : ∀ c ∈ done, t.Fits c) (hb : ¬t.Fits b) :
    ∃ t₁, t.Assigned done t₁ ∧
      t.assignAll (done ++ b :: rest) = (.error (.castMismatch b.id b.field b.type), t₁) := by
  rw [List.map_append] at hdistinct
  obtain ⟨t₁, ht₁, hrest⟩ := (Assigned.nil t).assignAll (List.nodup_append.mp hdistinct).1 hfits
  refine ⟨t₁, ht₁, ?_⟩
  rw [hrest, assignAll, assign_of_not_fits (fun h => hb (ht₁.fits_iff.mp h))]

theorem exists_first_misfit (h : ¬∀ b ∈ bs, t.Fits b) :
    ∃ done b rest, bs = done ++ b :: rest ∧ (∀ c ∈ done, t.Fits c) ∧ ¬t.Fits b := by
  have hfind : (bs.find? fun b => ¬t.Fits b).isSome := by simpa using h
  obtain ⟨b, hb⟩ := Option.isSome_iff_exists.mp hfind
  obtain ⟨hmisfit, done, rest, hbs, hdone⟩ := List.find?_eq_some_iff_append.mp hb
  exact ⟨done, b, rest, hbs, fun c hc => by simpa using hdone c hc, by simpa using hmisfit⟩

end Target

namespace BinderUnit

variable {u : BinderUnit} {bs : List Binding}

/-- The statement for `a` assigns a field the view of an id, cast to a type: the field, the type and the id are those
of `b`. -/
structure Means (u : BinderUnit) (a : Assignment) (b : Binding) : Prop where
  field : a.field = b.field
  type : u.typePath? a.type = some b.type
  id : a.id = b.id

theorem bindings_eq (h : List.Forall₂ u.Means u.assignments bs) : u.bindings = bs := by
  rw [bindings]
  generalize u.assignments = as at h
  induction h with
  | nil => rfl
  | @cons a b _ _ hone _ ih =>
    have hsome : ((u.typePath? a.type).map fun path => (⟨a.field, path, a.id⟩ : Binding)) = some b := by
      rw [hone.type, Option.map_some, hone.field, hone.id]
    simp only [List.filterMap_cons, hsome, ih]

theorem typePath?_of_typeRef? {g : HostGroup} {conforms : FieldDecl → Bool} {policy : InvalidFieldPolicy}
    {type : String} {ref : TypeRef} (himports : u.imports = g.imports conforms)
    (href : typeRef? u.imports policy type = some ref) : u.typePath? ref = some type := by
  cases ref with
  | qualified path =>
    obtain ⟨_, _, rfl⟩ := typeRef?_eq_qualified_iff.mp href
    rfl
  | imported name =>
    have hlocal := typeRef?_eq_imported_iff.mp href
    rw [ImportTable.local?, Option.map_eq_some_iff] at hlocal
    obtain ⟨i, hi, rfl⟩ := hlocal
    have hpath : i.path = type := by simpa using List.find?_some hi
    have hi := List.mem_of_find?_eq_some hi
    have hsome : (u.imports.entries.find? fun j => j.localName = i.localName).isSome := by
      simpa using ⟨i, hi, rfl⟩
    obtain ⟨j, hj⟩ := Option.isSome_iff_exists.mp hsome
    have hname : j.localName = i.localName := by simpa using List.find?_some hj
    have hnodup : (u.imports.entries.map Import.localName).Nodup := by
      rw [himports]
      exact ImportTable.nodup_localName _ _
    obtain rfl : j = i := List.inj_on_of_nodup_map hnodup (List.mem_of_find?_eq_some hj) hi hname
    rw [typePath?, hj, Option.map_some, hpath]

/-- The statements of a generated unit mean, in order, what is declared for fields of the host. -/
theorem exists_means_of_generate {s : Schema} {settings : Settings} {roots : CrateRoots} {g : Generation}
    (hg : generate s settings roots = .ok g) (hu : u ∈ g.units) :
    ∃ h ∈ s.boundHosts, u.package = h.name.modulePath ∧ u.host = h.name.ident ∧
      ∃ bs, List.Forall₂ u.Means u.assignments bs ∧ bs.Sublist h.bindings := by
  rcases (generate_eq_ok_iff.mp hg).emitted_of_mem hu with hu | ⟨group, hgroup, e, hemitted, hunit⟩
  · cases hu
  obtain ⟨h, hh, rfl⟩ := List.mem_map.mp hgroup
  obtain ⟨_, results, htreated, rfl⟩ := hemitted.eq_unit hunit
  refine ⟨h, hh, rfl, rfl, List.sublistForall₂_iff.mp ?_⟩
  have hmeans := sublistForall₂_assignmentsOf (R := fun a d =>
    (h.group.unit (s.conforming settings.baseType) roots (assignmentsOf results)).Means a ⟨d.field, d.type, d.id⟩)
    (fun d _ ref href => ⟨rfl, typePath?_of_typeRef? rfl href, rfl⟩) htreated
  rw [Host.group, Host.declarations, List.sublistForall₂_map_right_iff] at hmeans
  exact hmeans

/-- What the method of a unit whose statements mean `bs` does to the host `t`. -/
structure Injects (u : BinderUnit) (bs : List Binding) (t : Target) : Prop where
  ok_iff : (u.injector t).1 = .ok () ↔ ∀ b ∈ bs, t.Fits b
  bound : (∀ b ∈ bs, t.Fits b) → t.Assigned bs (u.injector t).2
  /-- Otherwise it stops at the first field whose view is of another type, with the fields ahead bound. -/
  stopped : (¬∀ b ∈ bs, t.Fits b) → ∃ done b rest, bs = done ++ b :: rest ∧ (∀ c ∈ done, t.Fits c) ∧ ¬t.Fits b ∧
    (u.injector t).1 = .error (.castMismatch b.id b.field b.type) ∧ t.Assigned done (u.injector t).2 ∧
      ∀ c ∈ b :: rest, (u.injector t).2.field? c.field = t.field? c.field
  /-- A registry comes to the same, with the name of the unit put to an error, if the unit is what was last registered
  under that name, for the type of the host. -/
  dispatched : ∀ rs : Registrations, t.type.path = u.hostPath → rs.Ends u.registeredName ⟨t.type, u.injector⟩ →
    (Registry.empty.registerAll rs).tryInject t =
      ((u.injector t).1.mapError (.injection u.registeredName), (u.injector t).2)
  programmed : ∀ rs : Registrations, t.type.path = u.hostPath → rs.Ends u.registeredName ⟨t.type, u.injector⟩ →
    ∀ events, (Program.registerAll ⟨.empty, events⟩ rs).tryInject t =
      ((u.injector t).1.mapError (.injection u.registeredName), (u.injector t).2)

theorem tryInject_of_ends {rs : Registrations} {t : Target} (hpath : t.type.path = u.hostPath)
    (hends : rs.Ends u.registeredName ⟨t.type, u.injector⟩) :
    (Registry.empty.registerAll rs).tryInject t =
      ((u.injector t).1.mapError (.injection u.registeredName), (u.injector t).2) := by
  have hunit : t.type.unit = u.registeredName := by rw [HostType.unit, hpath, registeredName]
  rw [← hunit] at hends ⊢
  exact Registry.tryInject_of_ends hends rfl

theorem tryInject_registerAll_of_ends {rs : Registrations} {t : Target} (hpath : t.type.path = u.hostPath)
    (hends : rs.Ends u.registeredName ⟨t.type, u.injector⟩) (events : List Event) :
    (Program.registerAll ⟨.empty, events⟩ rs).tryInject t =
      ((u.injector t).1.mapError (.injection u.registeredName), (u.injector t).2) := by
  rw [Program.registerAll_eq, Program.tryInject_eq]
  exact tryInject_of_ends hpath hends

/-- The method of a unit that assigns distinct fields, on any host. -/
theorem injects_of_means (hmeans : List.Forall₂ u.Means u.assignments bs) (hdistinct : (bs.map Binding.field).Nodup)
    (t : Target) : u.Injects bs t := by
  have hinjector : u.injector t = t.assignAll bs := by rw [injector, bindings_eq hmeans]
  by_cases hfits : ∀ b ∈ bs, t.Fits b
  · obtain ⟨t₁, ht₁, hassign⟩ := t.assignAll_of_fits hdistinct hfits
    refine ⟨?_, fun _ => ?_, fun h => absurd hfits h, fun _ => tryInject_of_ends,
      fun _ => tryInject_registerAll_of_ends⟩ <;> rw [hinjector, hassign]
    · exact iff_of_true rfl hfits
    · exact ht₁
  · obtain ⟨done, b, rest, rfl, hdone, hb⟩ := Target.exists_first_misfit hfits
    obtain ⟨t₁, ht₁, hassign⟩ := t.assignAll_of_not_fits hdistinct hdone hb
    refine ⟨?_, fun h => absurd h hfits, fun _ => ?_, fun _ => tryInject_of_ends,
      fun _ => tryInject_registerAll_of_ends⟩ <;> rw [hinjector, hassign]
    · exact iff_of_false (by simp) hfits
    · refine ⟨done, b, rest, rfl, hdone, hb, rfl, ht₁, fun c hc => ht₁.field?_of_not_mem fun hmem => ?_⟩
      rw [List.map_append, List.nodup_append] at hdistinct
      exact hdistinct.2.2 _ hmem _ (List.mem_map_of_mem hc) rfl

def dialogUnit : BinderUnit where
  package := "app"
  host := "Dialog"
  name := "DialogViewBinder"
  moduleName := "app_dialog_view_binder"
  imports := ⟨[⟨"w::Label", "Label", ⟨"app", "Dialog", "title", "w::Label", 1⟩⟩]⟩
  assignments := [⟨"title", .imported "Label", 1⟩, ⟨"ok", .qualified "w::Button", 2⟩, ⟨"note", .imported "Label", 3⟩]
  roots := .resolve .none

def dialog : Target where
  type := ⟨"app::Dialog", 0⟩
  fields := [("title", ⟨"w::Label", some ⟨0, "w::Label", []⟩⟩), ("ok", .unbound "w::Button"),
    ("note", .unbound "w::Label")]
  views := [(2, ⟨1, "w::Label", []⟩), (3, ⟨2, "w::Label", []⟩)]

theorem dialogUnit_injects :
    List.Forall₂ dialogUnit.Means dialogUnit.assignments
        [⟨"title", "w::Label", 1⟩, ⟨"ok", "w::Button", 2⟩, ⟨"note", "w::Label", 3⟩] ∧
      ["title", "ok", "note"].Nodup ∧
      dialogUnit.Injects [⟨"title", "w::Label", 1⟩, ⟨"ok", "w::Button", 2⟩, ⟨"note", "w::Label", 3⟩] dialog ∧
      dialogUnit.injector dialog = (.error (.castMismatch 2 "ok" "w::Button"),
        { dialog with fields := [("title", .unbound "w::Label"), ("ok", .unbound "w::Button"),
          ("note", .unbound "w::Label")] }) := by
  have hmeans : List.Forall₂ dialogUnit.Means dialogUnit.assignments
      [⟨"title", "w::Label", 1⟩, ⟨"ok", "w::Button", 2⟩, ⟨"note", "w::Label", 3⟩] :=
    .cons ⟨rfl, by decide, rfl⟩ (.cons ⟨rfl, by decide, rfl⟩ (.cons ⟨rfl, by decide, rfl⟩ .nil))
  exact ⟨hmeans, by decide, injects_of_means hmeans (by decide) dialog, by decide⟩

end BinderUnit

end HostBinder

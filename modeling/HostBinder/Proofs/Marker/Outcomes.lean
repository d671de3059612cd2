import HostBinder.Marker.Component
import HostBinder.Proofs.Code.DeclaredNames
import HostBinder.Proofs.Marker.Acceptance

set_option autoImplicit false

/-!
How the expansion of a marked type ends: with code, with an answer that says what is wrong, or by giving up where the
constant is named. It never gives up on a type whose name is written plainly, and always on one whose name is written
raw, if there is nothing else wrong with it.
-/

namespace HostBinder.Marker

open Code

def expand : Marker → CrateRoots → Tokens → Tokens → Expansion Tokens
  | .component => expandComponent
  | .host => expandHost

def Answers {α : Type} (x : Expansion α) : Prop := (∃ a, x = .ok a) ∨ ∃ e, x = .error e ∧ IsAnswer e

/-- An expansion that is given up for want of a name. -/
def GivesUp {α : Type} (x : Expansion α) : Prop := ∃ m, x = .error (.unnameable m)

theorem Answers.not_givesUp {α : Type} {x : Expansion α} (h : Answers x) : ¬GivesUp x := by
  rintro ⟨m, rfl⟩
  rcases h with ⟨a, ha⟩ | ⟨e, he, hanswer⟩
  · cases ha
  · cases he
    exact hanswer

def NamesSupertype (args : Tokens) (supertype : Option CodePath) : Prop :=
  ∃ arguments, Argument.ofTokens args = .ok arguments ∧ supertypeArgument arguments = .ok supertype

structure IsComponentStruct (item : Tokens) (i : Item) : Prop where
  declared : markedItem item = .ok i
  struct : ∃ fields, i.kind = .struct fields
  plain : i.parameters = []

theorem supertypeArgument_isAnswer {arguments : List Argument} {e : ExpansionError}
    (h : supertypeArgument arguments = .error e) : IsAnswer e := by
  unfold supertypeArgument at h
  simp only at h
  split at h
  · cases h
  · rename_i hrefusals
    cases h
    exact mt List.isEmpty_iff.mpr hrefusals

theorem expandComponent_of_namesSupertype (roots : CrateRoots) {args item : Tokens} {supertype : Option CodePath}
    (h : NamesSupertype args supertype) :
    expandComponent roots args item = (markedItem item >>= fun i =>
      match i.kind with
      | .struct fields =>
        if i.parameters = [] then
          expansion .component roots i.name (i.writtenAs (.struct fields)) (supertypeField roots supertype)
        else refuse (.generic .component)
      | _ => refuse (.notStruct .component)) := by
  obtain ⟨arguments, harguments, hsupertype⟩ := h
  rw [expandComponent, harguments]
  simp only [Except.mapError, hsupertype, bind, Except.bind]
  cases markedItem item with
  | error e => rfl
  | ok i =>
    obtain ⟨attributes, visibility, name, parameters, bounds, kind⟩ := i
    cases kind with
    | struct fields => cases parameters <;> rfl
    | enumeration written => rfl
    | union fields => rfl

theorem expandComponent_of_not_namesSupertype (roots : CrateRoots) {args : Tokens} (item : Tokens)
    (h : ¬∃ supertype, NamesSupertype args supertype) :
    ∃ e, expandComponent roots args item = .error e ∧ IsAnswer e := by
  cases hargs : Argument.ofTokens args with
  | error f => exact ⟨.arguments f, by rw [expandComponent, hargs]; rfl, trivial⟩
  | ok arguments =>
    cases hsupertype : supertypeArgument arguments with
    | error e =>
      refine ⟨e, ?_, supertypeArgument_isAnswer hsupertype⟩
      simp only [expandComponent, hargs, Except.mapError, hsupertype, bind, Except.bind]
    | ok supertype => exact absurd ⟨supertype, arguments, hargs, hsupertype⟩ h

theorem expandComponent_of_not_isComponentStruct (roots : CrateRoots) {args item : Tokens}
    (h : ¬((∃ supertype, NamesSupertype args supertype) ∧ ∃ i, IsComponentStruct item i)) :
    ∃ e, expandComponent roots args item = .error e ∧ IsAnswer e := by
  by_cases hargs : ∃ supertype, NamesSupertype args supertype
  · obtain ⟨supertype, hsupertype⟩ := hargs
    rw [expandComponent_of_namesSupertype roots hsupertype]
    cases hitem : itemOf item with
    | error f => exact ⟨.item f, by rw [markedItem, hitem]; rfl, trivial⟩
    | ok i =>
      have hmarked : markedItem item = .ok i := by rw [markedItem, hitem]; rfl
      simp only [hmarked, bind, Except.bind]
      cases hkind : i.kind with
      | struct fields =>
        have hgeneric : i.parameters ≠ [] := fun hplain =>
          h ⟨⟨supertype, hsupertype⟩, i, hmarked, ⟨fields, hkind⟩, hplain⟩
        exact ⟨_, if_neg hgeneric, List.cons_ne_nil _ _⟩
      | enumeration written => exact ⟨_, rfl, List.cons_ne_nil _ _⟩
      | union fields => exact ⟨_, rfl, List.cons_ne_nil _ _⟩
  · exact expandComponent_of_not_namesSupertype roots item hargs

theorem expandComponent_of_isComponentStruct (roots : CrateRoots) {args item : Tokens} {supertype : Option CodePath}
    {i : Item} (hargs : NamesSupertype args supertype) (h : IsComponentStruct item i) :
    ∃ written, expandComponent roots args item =
      expansion .component roots i.name written (supertypeField roots supertype) := by
  obtain ⟨fields, hkind⟩ := h.struct
  rw [expandComponent_of_namesSupertype roots hargs, h.declared]
  simp only [bind, Except.bind, hkind]
  exact ⟨_, if_pos h.plain⟩

/-- Arguments and a type that a marker has nothing against, the name of the type left aside. -/
def Passes (args item : Tokens) (i : Item) : Marker → Prop
  | .component => (∃ supertype, NamesSupertype args supertype) ∧ IsComponentStruct item i
  | .host => args = [] ∧ ∃ fields, IsHostStruct item i fields ∧ CanBind fields

theorem Passes.declared {marker : Marker} {args item : Tokens} {i : Item} (h : marker.Passes args item i) :
    markedItem item = .ok i := by
  cases marker with
  | component => exact h.2.declared
  | host =>
    obtain ⟨_, _, hstruct, _⟩ := h
    exact hstruct.declared

theorem Passes.expand_eq {marker : Marker} {args item : Tokens} {i : Item} (h : marker.Passes args item i)
    (roots : CrateRoots) :
    ∃ written fields, marker.expand roots args item = expansion marker roots i.name written fields := by
  cases marker with
  | component =>
    obtain ⟨⟨supertype, hargs⟩, hstruct⟩ := h
    obtain ⟨written, heq⟩ := expandComponent_of_isComponentStruct roots hargs hstruct
    exact ⟨written, _, heq⟩
  | host =>
    obtain ⟨rfl, fields, hstruct, hcan⟩ := h
    rcases expandHost_struct roots hstruct with ⟨hnot, _⟩ | ⟨_, written, bound, heq⟩
    · exact absurd hcan hnot
    · exact ⟨written, _, heq⟩

theorem refused_of_not_passes {marker : Marker} {args item : Tokens} (h : ¬∃ i, marker.Passes args item i)
    (roots : CrateRoots) : ∃ e, marker.expand roots args item = .error e ∧ IsAnswer e := by
  cases marker with
  | component =>
    have hnot : ¬((∃ supertype, NamesSupertype args supertype) ∧ ∃ i, IsComponentStruct item i) :=
      fun ⟨hargs, i, hstruct⟩ => h ⟨i, hargs, hstruct⟩
    exact expandComponent_of_not_isComponentStruct roots hnot
  | host =>
    by_cases hstruct : args = [] ∧ ∃ i fields, IsHostStruct item i fields
    · obtain ⟨rfl, i, fields, hstruct⟩ := hstruct
      rcases expandHost_struct roots hstruct with ⟨hnot, herror⟩ | ⟨hcan, _⟩
      · exact ⟨_, herror, mt refusals_eq_nil_iff.mp hnot⟩
      · exact absurd ⟨i, rfl, fields, hstruct, hcan⟩ h
    · exact expandHost_of_not_isHostStruct roots hstruct

theorem exists_passes {marker : Marker} {roots : CrateRoots} {args item code : Tokens}
    (h : marker.expand roots args item = .ok code) :
    ∃ i written fields, marker.Passes args item i ∧ expansion marker roots i.name written fields = .ok code := by
  by_cases hpasses : ∃ i, marker.Passes args item i
  · obtain ⟨i, hpasses⟩ := hpasses
    obtain ⟨written, fields, heq⟩ := hpasses.expand_eq roots
    exact ⟨i, written, fields, hpasses, heq ▸ h⟩
  · obtain ⟨e, he, _⟩ := refused_of_not_passes hpasses roots
    rw [he] at h
    cases h

/-- Markers with tokens of source text: an expansion is given up exactly if the name of the type is raw and there is
nothing else against it, and ends with code or an answer otherwise. The constant of a type can be named, by an
identifier that can be declared, exactly if the name of the type is not raw. -/
theorem expand_givesUp_iff_raw (marker : Marker) (roots : CrateRoots) (args : Tokens) {item : Tokens}
    (htokens : ∀ i, .ident i ∈ item → i.IsToken) :
    (GivesUp (marker.expand roots args item) ↔ ∃ i, marker.Passes args item i ∧ i.name.raw = true) ∧
    (Answers (marker.expand roots args item) ↔ ¬∃ i, marker.Passes args item i ∧ i.name.raw = true) ∧
    ∀ type : Ident, type.IsToken →
      ((∃ constant, constantName marker type = .ok constant ∧ constant.IsToken ∧ constant.isName = true) ↔
        type.raw = false) := by
  have hpassing : ∀ i, marker.Passes args item i →
      (i.name.raw = true → GivesUp (marker.expand roots args item)) ∧
      (i.name.raw = false → Answers (marker.expand roots args item)) := by
    intro i hpasses
    have htoken : i.name.IsToken := htokens i.name (name_mem_of_itemOf (Attempt.mapError_eq_ok_iff.mp hpasses.declared))
    have hnamed : (∃ constant, constantName marker i.name = .ok constant) ↔ i.name.raw = false :=
      exists_constantName_iff_not_raw htoken
    obtain ⟨written, fields, heq⟩ := hpasses.expand_eq roots
    rw [heq]
    constructor
    · intro hraw
      cases hconstant : constantName marker i.name with
      | ok constant => rw [hnamed.mp ⟨constant, hconstant⟩] at hraw; cases hraw
      | error m => exact ⟨m, expansion_eq_error_iff.mpr ⟨m, hconstant, rfl⟩⟩
    · intro hplain
      exact .inl (expansion_eq_ok_iff.mpr (hnamed.mpr hplain))
  have hraw : (∃ i, marker.Passes args item i ∧ i.name.raw = true) → GivesUp (marker.expand roots args item) :=
    fun ⟨i, hpasses, hraw⟩ => (hpassing i hpasses).1 hraw
  have hother : (¬∃ i, marker.Passes args item i ∧ i.name.raw = true) → Answers (marker.expand roots args item) := by
    intro hnot
    by_cases hpasses : ∃ i, marker.Passes args item i
    · obtain ⟨i, hpasses⟩ := hpasses
      exact (hpassing i hpasses).2 (Bool.eq_false_iff.mpr fun hraw => hnot ⟨i, hpasses, hraw⟩)
    · exact .inr (refused_of_not_passes hpasses roots)
  refine ⟨⟨fun hgives => ?_, hraw⟩, ⟨fun hanswers hbad => hanswers.not_givesUp (hraw hbad), hother⟩, ?_⟩
  · by_contra hnot
    exact (hother hnot).not_givesUp hgives
  · intro type htoken
    have hnamed : (∃ constant, constantName marker type = .ok constant) ↔ type.raw = false :=
      exists_constantName_iff_not_raw htoken
    rw [← hnamed]
    exact exists_congr fun constant => and_iff_left_of_imp isName_of_constantName

def labelItem : Tokens := (lex? "struct Label;").getD []

theorem expand_givesUp_iff_raw_label :
    (∀ i, .ident i ∈ labelItem → i.IsToken) ∧ Answers (Marker.expand .component (.resolve .none) [] labelItem) ∧
      ∃ constant, constantName .component ⟨"Label", false⟩ = .ok constant ∧ constant.IsToken ∧
        constant.isName = true := by
  have hitem : labelItem = [word "struct", .ident ⟨"Label", false⟩, .mark ';' false] := by rfl
  have hidents : ∀ i, .ident i ∈ labelItem → i = ⟨"struct", false⟩ ∨ i = ⟨"Label", false⟩ := by
    rw [hitem]
    simp [word]
  have hplain : ∀ i, .ident i ∈ labelItem → i.raw = false := by
    intro i hi
    rcases hidents i hi with rfl | rfl <;> rfl
  have htokens : ∀ i, .ident i ∈ labelItem → i.IsToken := by
    intro i hi
    refine ⟨?_, fun hraw => absurd hraw (by simp [hplain i hi])⟩
    rcases hidents i hi with rfl | rfl <;> decide
  obtain ⟨_, hanswers, hconstant⟩ := expand_givesUp_iff_raw .component (.resolve .none) [] htokens
  refine ⟨htokens, hanswers.mpr ?_, (hconstant ⟨"Label", false⟩ (htokens _ ?_)).mpr rfl⟩
  · rintro ⟨i, hpasses, hraw⟩
    rw [hplain i.name (name_mem_of_itemOf (Attempt.mapError_eq_ok_iff.mp hpasses.declared))] at hraw
    cases hraw
  · simp [hitem]

def rawUnit : Tokens := (lex? "struct r#type;").getD []

theorem rawUnit_not_answered :
    rawUnit = [word "struct", .ident ⟨"type", true⟩, .mark ';' false] ∧ (Ident.mk "type" true).IsToken ∧
      ¬Answers (Marker.expand .component (.resolve .none) [] rawUnit) ∧
      ¬∃ constant, constantName .component ⟨"type", true⟩ = .ok constant := by
  have htoken : (Ident.mk "type" true).IsToken := ⟨by decide, fun _ => by decide⟩
  have herror : Marker.expand .component (.resolve .none) [] rawUnit =
      .error (.unnameable ⟨"__R#TYPE_COMPONENT_SCHEMA"⟩) :=
    expansionError?_eq_some_iff.mp (by decide +kernel)
  refine ⟨by rfl, htoken, fun hanswers => hanswers.not_givesUp ⟨_, herror⟩, ?_⟩
  rw [exists_constantName_iff_not_raw htoken]
  decide

end HostBinder.Marker

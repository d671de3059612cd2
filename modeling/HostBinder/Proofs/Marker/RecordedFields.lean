import HostBinder.Proofs.Code.FieldNames
import HostBinder.Proofs.Code.Identifiers
import HostBinder.Proofs.Marker.DeclaredPath

set_option autoImplicit false

namespace HostBinder

open Code

namespace Marker

def isMarked (f : Field) : Bool := f.attributes.any isBind

def markedNames (i : Item) : List Ident :=
  match i.kind with
  | .struct (.named fields) => (fields.items.filter isMarked).map Field.name
  | _ => []

theorem name_of_bindField {f : Field} {bind : Attribute} {others : List Attribute} {b : BoundField}
    (h : bindField f bind others = .ok b) : b.name = f.name := by
  rw [bindField, Attempt.ite_throw_eq_ok_iff, Attempt.bind_eq_ok_iff] at h
  obtain ⟨_, id, _, h⟩ := h
  cases htype : boundType? f.type with
  | some type =>
    rw [htype] at h
    cases h
    rfl
  | none =>
    rw [htype] at h
    cases h

theorem boundField?_of_isMarked {f : Field} (h : isMarked f = true) :
    ∃ bind others, boundField? f = some (bindField f bind others) := by
  unfold boundField?
  split
  · rename_i hnone
    rw [List.filter_eq_nil_iff] at hnone
    obtain ⟨a, ha, hbind⟩ := List.any_eq_true.mp h
    exact absurd hbind (hnone a ha)
  · exact ⟨_, _, rfl⟩

theorem boundField?_of_not_isMarked {f : Field} (h : isMarked f = false) : boundField? f = none := by
  have hnone : f.attributes.filter isBind = [] := by simpa [isMarked] using h
  rw [boundField?, hnone]

theorem names_of_refusals_nil {fields : List Field}
    (h : ∀ r ∈ fields.filterMap boundField?, ∃ b, r = .ok b) :
    ((fields.filterMap boundField?).filterMap Except.toOption).map BoundField.name =
      (fields.filter isMarked).map Field.name := by
  induction fields with
  | nil => rfl
  | cons f fields ih =>
    cases hmarked : isMarked f with
    | false =>
      have hnone := boundField?_of_not_isMarked hmarked
      rw [List.filterMap_cons_none hnone] at h ⊢
      rw [List.filter_cons_of_neg (by simp [hmarked])]
      exact ih h
    | true =>
      obtain ⟨bind, others, hsome⟩ := boundField?_of_isMarked hmarked
      rw [List.filterMap_cons_some hsome] at h ⊢
      rw [List.filter_cons_of_pos hmarked]
      obtain ⟨⟨b, hb⟩, hrest⟩ := List.forall_mem_cons.mp h
      have hkept : (bindField f bind others).toOption = some b := by rw [hb]; rfl
      rw [List.filterMap_cons_some hkept, List.map_cons, List.map_cons, name_of_bindField hb, ih hrest]

theorem names_of_boundFields {fields : List Field} {bound : List BoundField} (h : boundFields fields = .ok bound) :
    bound.map BoundField.name = (fields.filter isMarked).map Field.name := by
  unfold boundFields at h
  simp only at h
  split at h
  · cases h
  split at h
  · rename_i hrefusals
    cases h
    rw [List.isEmpty_iff, List.filterMap_eq_nil_iff] at hrefusals
    refine names_of_refusals_nil fun r hr => ?_
    cases r with
    | ok b => exact ⟨b, rfl⟩
    | error e => exact absurd (hrefusals _ hr) (by simp)
  · cases h

/-- Code with a host node whose bindings are recorded, in order, under the given names. The code is evaluated in the
module `m`. -/
def Records (roots : CrateRoots) (code : Tokens) (m : String) (names : List String) : Prop :=
  ∃ defCode entries,
    within roots.schema ["node", "Host"] ++
      [braces (initialised "def" defCode ++
        initialised "bindings" (op "&" ++ [brackets (List.intercalate (op ",") entries)]))] <:+: code ∧
    List.Forall₂ (fun name entry => ∃ identCode rest,
      entry = within roots.schema ["node", "Binding"] ++ [braces (initialised "ident" identCode ++ rest)] ∧
        constantText? m identCode = some name) names entries

theorem node_infix_registration (marker : Marker) (roots : CrateRoots) (constant : Ident) (node : Tokens) :
    node <:+: registration marker roots constant node :=
  (List.infix_append _ node _).trans
    ((List.prefix_append _ (atStart roots)).isInfix.trans (List.prefix_append _ _).isInfix)

theorem records_of_expansion {roots : CrateRoots} {type : Ident} {written code : Tokens} {bound : List BoundField}
    (h : expansion .host roots type written (bindingsField roots bound) = .ok code) (m : String) :
    Records roots code m (bound.map fun b => b.name.name) := by
  rw [expansion, Attempt.bind_eq_ok_iff] at h
  obtain ⟨constant, _, h⟩ := h
  rw [Attempt.pure_eq_ok_iff] at h
  refine ⟨typeName roots type, bound.map (bindingCode roots), ?_, ?_⟩
  · rw [← h]
    exact (node_infix_registration .host roots constant _).trans (List.suffix_append _ _).isInfix
  · rw [List.forall₂_map_left_iff, List.forall₂_map_right_iff, List.forall₂_same]
    intro b _
    refine ⟨[quoted b.name.name], initialised "ty" (pathConstant roots b.type) ++ initialised "id" b.id, ?_,
      constantText?_quoted m b.name.name⟩
    rw [bindingCode, List.append_assoc (initialised "ident" _)]

theorem expandHost_records {roots : CrateRoots} {args item code : Tokens} (h : expandHost roots args item = .ok code) :
    ∃ i, markedItem item = .ok i ∧ (∀ f ∈ markedNames i, f.NamesField) ∧
      ∀ m, Records roots code m ((markedNames i).map Ident.name) := by
  obtain ⟨i, fields, bound, written, hi, hkind, hbound, hexpansion⟩ := expandHost_eq_ok h
  have hmarked : markedNames i = (fields.items.filter isMarked).map Field.name := by rw [markedNames, hkind]
  refine ⟨i, hi, ?_, fun m => ?_⟩
  · have hnamed := hasNamedFields_of_itemOf (Attempt.mapError_eq_ok_iff.mp hi)
    rw [hkind] at hnamed
    rw [hmarked]
    intro f hf
    obtain ⟨field, hfield, rfl⟩ := List.mem_map.mp hf
    exact hnamed field (List.mem_filter.mp hfield).1
  · rw [hmarked, ← names_of_boundFields hbound, List.map_map]
    exact records_of_expansion hexpansion m

/-- How generated code gets at a field that was declared by `f`: by an identifier `g` that stands for the same field. -/
structure Restores (f g : Ident) : Prop where
  name : g.name = f.name
  raw_iff : g.raw = true ↔ f.name ∈ reservedWords
  token : g.IsToken
  isName : g.isName = true
  assigns : ∀ (roots : CrateRoots) (a : Assignment) (type : Tokens), a.field = f.name → a.type.tokens? = some type →
    BinderUnit.statement? roots a = .ok (BinderUnit.statement roots g type a)

theorem exists_restores {f : Ident} (htoken : f.IsToken) (hrawable : f.name ∉ unrawable) :
    ∃ g, fieldIdent? f.name = .ok (some g) ∧ Restores f g := by
  have hident := fieldIdent?_of_isIdentText htoken.text
  rw [if_neg hrawable] at hident
  refine ⟨_, hident, rfl, decide_eq_true_iff, ⟨htoken.text, fun _ => hrawable⟩, ?_, ?_⟩
  · by_cases hreserved : f.name ∈ reservedWords <;> simp [Ident.isName, hreserved]
  · intro roots a type hfield htype
    rw [BinderUnit.statement?, hfield, hident, htype]
    rfl

theorem not_mem_unrawable {f : Ident} (htoken : f.IsToken) (hname : f.NamesField) (hne : f ≠ ⟨"_", false⟩) :
    f.name ∉ unrawable := by
  rcases hname with hname | rfl
  · cases hraw : f.raw with
    | true => exact htoken.rawable hraw
    | false =>
      rw [Ident.isName, hraw, Bool.false_or] at hname
      intro hmem
      simp [unrawable_subset hmem] at hname
  · exact absurd rfl hne

theorem fieldIdent?_underscore : fieldIdent? "_" = .ok none := by
  rw [fieldIdent?_of_isIdentText (by decide), if_pos (by decide)]

/-- Marked fields are recorded in order under their names, without the sign of a raw identifier, and each is restored
from what is recorded unless it is declared by an underscore. -/
theorem expandHost_restores {roots : CrateRoots} {args item code : Tokens} (h : expandHost roots args item = .ok code) :
    ∃ i, markedItem item = .ok i ∧ (∀ m, Records roots code m ((markedNames i).map Ident.name)) ∧
      ∀ f ∈ markedNames i, f.IsToken →
        if f = ⟨"_", false⟩ then fieldIdent? f.name = .ok none
        else ∃ g, fieldIdent? f.name = .ok (some g) ∧ Restores f g := by
  obtain ⟨i, hi, hnamed, hrecords⟩ := expandHost_records h
  refine ⟨i, hi, hrecords, fun f hf htoken => ?_⟩
  split
  · rename_i hunderscore
    rw [hunderscore]
    exact fieldIdent?_underscore
  · rename_i hne
    exact exists_restores htoken (not_mem_unrawable htoken (hnamed f hf) hne)

def formItem : Tokens :=
  (lex? "struct Form \x7b #[bind(3)] r#type: Bound<Label>, #[bind(4)] title: Bound<Label> \x7d").getD []

theorem expandHost_restores_form :
    ∃ code, expandHost (.resolve .none) [] formItem = .ok code ∧
      ∃ i, markedItem formItem = .ok i ∧ markedNames i = [⟨"type", true⟩, ⟨"title", false⟩] ∧
        (∀ m, Records (.resolve .none) code m ["type", "title"]) ∧
        (∃ g, fieldIdent? "type" = .ok (some g) ∧ Restores ⟨"type", true⟩ g) ∧
        ∃ g, fieldIdent? "title" = .ok (some g) ∧ Restores ⟨"title", false⟩ g := by
  have hok : (expandHost (.resolve .none) [] formItem).isOk = true := by decide +kernel
  have hnames : (markedItem formItem).toOption.map markedNames = some [⟨"type", true⟩, ⟨"title", false⟩] := by
    decide +kernel
  cases hcode : expandHost (.resolve .none) [] formItem with
  | error e =>
    rw [hcode] at hok
    cases hok
  | ok code =>
    obtain ⟨i, hi, hrecords, hrestored⟩ := expandHost_restores hcode
    rw [hi] at hnames
    have hmarked : markedNames i = [⟨"type", true⟩, ⟨"title", false⟩] := Option.some.inj hnames
    rw [hmarked] at hrecords hrestored
    refine ⟨code, rfl, i, hi, hmarked, hrecords, ?_, ?_⟩
    · exact hrestored ⟨"type", true⟩ (by decide) ⟨by decide, fun _ => by decide⟩
    · exact hrestored ⟨"title", false⟩ (by decide) ⟨by decide, fun hraw => nomatch hraw⟩

def underscoreItem : Tokens := (lex? "struct S \x7b #[bind(1)] _: Bound<L> \x7d").getD []

/-- A field that is declared by an underscore is recorded by that name, from which no identifier is made. -/
theorem underscore_not_restored :
    ∃ code, expandHost (.resolve .none) [] underscoreItem = .ok code ∧
      ∃ i, markedItem underscoreItem = .ok i ∧ markedNames i = [⟨"_", false⟩] ∧ (Ident.mk "_" false).IsToken ∧
        (∀ m, Records (.resolve .none) code m ["_"]) ∧ ¬∃ g, fieldIdent? "_" = .ok (some g) := by
  have hok : (expandHost (.resolve .none) [] underscoreItem).isOk = true := by decide +kernel
  have hnames : (markedItem underscoreItem).toOption.map markedNames = some [⟨"_", false⟩] := by decide +kernel
  cases hcode : expandHost (.resolve .none) [] underscoreItem with
  | error e =>
    rw [hcode] at hok
    cases hok
  | ok code =>
    obtain ⟨i, hi, _, hrecords⟩ := expandHost_records hcode
    rw [hi] at hnames
    have hmarked : markedNames i = [⟨"_", false⟩] := Option.some.inj hnames
    rw [hmarked] at hrecords
    refine ⟨code, rfl, i, hi, hmarked, ⟨by decide, fun hraw => nomatch hraw⟩, hrecords, ?_⟩
    rw [fieldIdent?_underscore]
    simp

end Marker

end HostBinder

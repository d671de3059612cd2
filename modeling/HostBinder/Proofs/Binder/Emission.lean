import HostBinder.Binder.Emit
import HostBinder.Proofs.Attempt
import HostBinder.Proofs.Binder.Imports

set_option autoImplicit false

/-!
What becomes of the declarations of one host. A declaration is left out, refused or assigned, and a host is
given up, refused or made into a unit; each way holds under conditions of its own, and there are no others.
-/

namespace HostBinder

open Code

/-- A test that tells declarations apart by their types only. -/
def ByType (conforms : FieldDecl → Bool) : Prop :=
  ∀ d e : FieldDecl, d.type = e.type → conforms d = conforms e

/-- What becomes of a declaration in a unit with the given imports. -/
inductive Treated (imports : ImportTable) (policy : InvalidFieldPolicy) (host : String) (d : FieldDecl) :
    Option (Except Diagnostic Assignment) → Prop
  | left (hnone : typeRef? imports policy d.type = none) : Treated imports policy host d none
  | refused {ref : TypeRef} {ident : Option Ident} (href : typeRef? imports policy d.type = some ref)
      (hident : fieldIdent? d.field = .ok ident) (hcode : ident = none ∨ ref.tokens? = none) :
      Treated imports policy host d (some (.error (.unassignable d.field host)))
  | assigned {ref : TypeRef} {ident : Ident} {tokens : Tokens}
      (href : typeRef? imports policy d.type = some ref) (hident : fieldIdent? d.field = .ok (some ident))
      (htokens : ref.tokens? = some tokens) :
      Treated imports policy host d (some (.ok ⟨d.field, ref, d.id⟩))

def assignmentsOf (results : List (Option (Except Diagnostic Assignment))) : List Assignment :=
  results.filterMap fun r => r.bind Except.toOption

def refusalsOf (results : List (Option (Except Diagnostic Assignment))) : List Diagnostic :=
  results.filterMap fun r =>
    match r with
    | some (.error d) => some d
    | _ => none

section Results

variable {results : List (Option (Except Diagnostic Assignment))} {a : Assignment} {d : Diagnostic}

@[simp] theorem assignmentsOf_nil : assignmentsOf [] = [] := rfl

@[simp] theorem assignmentsOf_left : assignmentsOf (none :: results) = assignmentsOf results := rfl

@[simp] theorem assignmentsOf_refused :
    assignmentsOf (some (.error d) :: results) = assignmentsOf results := rfl

@[simp] theorem assignmentsOf_assigned :
    assignmentsOf (some (.ok a) :: results) = a :: assignmentsOf results := rfl

@[simp] theorem refusalsOf_nil : refusalsOf [] = [] := rfl

@[simp] theorem refusalsOf_left : refusalsOf (none :: results) = refusalsOf results := rfl

@[simp] theorem refusalsOf_refused : refusalsOf (some (.error d) :: results) = d :: refusalsOf results := rfl

@[simp] theorem refusalsOf_assigned : refusalsOf (some (.ok a) :: results) = refusalsOf results := rfl

theorem length_assignmentsOf_le (results : List (Option (Except Diagnostic Assignment))) :
    (assignmentsOf results).length ≤ results.length :=
  List.length_filterMap_le _ _

end Results

def HostGroup.unit (g : HostGroup) (conforms : FieldDecl → Bool) (roots : CrateRoots)
    (assignments : List Assignment) : BinderUnit where
  package := g.package
  host := g.host
  name := binderName g.host
  moduleName := g.moduleName
  imports := g.imports conforms
  assignments := assignments
  roots := roots

/-- Whether invalid declarations keep the host from having a unit. -/
def HostGroup.GivenUp (g : HostGroup) (conforms : FieldDecl → Bool) (policy : InvalidFieldPolicy) : Prop :=
  policy = .abort ∧ ∃ d ∈ g.declarations, conforms d = false

/-- What comes of a host. -/
inductive HostGroup.Emitted (g : HostGroup) (conforms : FieldDecl → Bool) (policy : InvalidFieldPolicy)
    (roots : CrateRoots) : Emission → Prop
  | aborted (hup : g.GivenUp conforms policy) :
      Emitted g conforms policy roots
        ⟨none, [.aborted g.path (g.declarations.countP fun d => !conforms d)]⟩
  | unnameable (hup : ¬g.GivenUp conforms policy) (hname : g.isNameable = false) :
      Emitted g conforms policy roots ⟨none, [.unnameable g.path]⟩
  | made {results : List (Option (Except Diagnostic Assignment))} (hup : ¬g.GivenUp conforms policy)
      (hname : g.isNameable = true)
      (htreated : List.Forall₂ (Treated (g.imports conforms) policy g.path) g.declarations results) :
      Emitted g conforms policy roots
        ⟨some (g.unit conforms roots (assignmentsOf results)), refusalsOf results⟩

section Declaration

variable {imports : ImportTable} {policy : InvalidFieldPolicy} {host : String} {d : FieldDecl}

theorem typeRef?_eq_imported_iff {type name : String} :
    typeRef? imports policy type = some (.imported name) ↔ imports.local? type = some name := by
  rw [typeRef?]
  cases imports.local? type with
  | none => by_cases hp : policy = .emit <;> simp [hp]
  | some n => simp

theorem typeRef?_eq_qualified_iff {type path : String} :
    typeRef? imports policy type = some (.qualified path) ↔
      imports.local? type = none ∧ policy = .emit ∧ path = type := by
  rw [typeRef?]
  cases imports.local? type with
  | none => by_cases hp : policy = .emit <;> simp [hp, eq_comm]
  | some n => simp

theorem assign_eq_ok_iff {result : Option (Except Diagnostic Assignment)} :
    assign host imports policy d = .ok result ↔ Treated imports policy host d result := by
  rw [assign]
  cases href : typeRef? imports policy d.type with
  | none =>
    rw [Attempt.pure_eq_ok_iff]
    constructor
    · intro heq
      subst heq
      exact .left href
    · intro h
      cases h with
      | left => rfl
      | refused href' => simp [href] at href'
      | assigned href' => simp [href] at href'
  | some ref =>
    simp only [Attempt.bind_eq_ok_iff]
    constructor
    · intro hx
      obtain ⟨ident, hident, h⟩ := hx
      by_cases hcode : ident = none ∨ ref.tokens? = none
      · rw [if_pos (by simpa using hcode), Attempt.pure_eq_ok_iff] at h
        subst h
        exact .refused href hident hcode
      · rw [if_neg (by simpa using hcode), Attempt.pure_eq_ok_iff] at h
        subst h
        obtain ⟨hi, ht⟩ := not_or.mp hcode
        obtain ⟨i, rfl⟩ := Option.ne_none_iff_exists'.mp hi
        obtain ⟨tokens, ht⟩ := Option.ne_none_iff_exists'.mp ht
        exact .assigned href hident ht
    · intro h
      cases h with
      | left hnone => simp [href] at hnone
      | refused href' hident hcode =>
        obtain rfl : ref = _ := Option.some.inj (href.symm.trans href')
        exact ⟨_, hident, by rw [if_pos (by simpa using hcode)]; rfl⟩
      | assigned href' hident htokens =>
        obtain rfl : ref = _ := Option.some.inj (href.symm.trans href')
        exact ⟨_, hident, by rw [if_neg (by simp [htokens])]; rfl⟩

theorem assign_eq_error_iff {e : MalformedIdent} :
    assign host imports policy d = .error e ↔
      (∃ ref, typeRef? imports policy d.type = some ref) ∧ fieldIdent? d.field = .error e := by
  rw [assign]
  cases href : typeRef? imports policy d.type with
  | none => simp [pure, Except.pure]
  | some ref =>
    simp only [Attempt.bind_eq_error_iff, Option.some.injEq, exists_eq', true_and]
    constructor
    · intro h
      rcases h with h | ⟨ident, _, h⟩
      · exact h
      · split at h <;> cases h
    · exact .inl

end Declaration

namespace HostGroup

variable {g : HostGroup} {conforms : FieldDecl → Bool} {policy : InvalidFieldPolicy} {roots : CrateRoots}

theorem givenUp_iff :
    (decide (policy = .abort) && decide ((g.declarations.countP fun d => !conforms d) ≠ 0)) = true ↔
      g.GivenUp conforms policy := by
  simp [GivenUp, List.countP_eq_zero]

theorem emit_eq_ok_iff {e : Emission} :
    g.emit conforms policy roots = .ok e ↔ g.Emitted conforms policy roots e := by
  rw [emit]
  by_cases hup : g.GivenUp conforms policy
  · rw [if_pos (givenUp_iff.mpr hup), Attempt.pure_eq_ok_iff]
    constructor
    · intro heq
      subst heq
      exact .aborted hup
    · intro h
      cases h with
      | aborted => rfl
      | unnameable hnot => exact absurd hup hnot
      | made hnot => exact absurd hup hnot
  · rw [if_neg (mt givenUp_iff.mp hup)]
    cases hname : g.isNameable with
    | false =>
      rw [if_pos (by simp), Attempt.pure_eq_ok_iff]
      constructor
      · intro heq
        subst heq
        exact .unnameable hup hname
      · intro h
        cases h with
        | aborted hyes => exact absurd hyes hup
        | unnameable => rfl
        | made _ hyes => simp [hname] at hyes
    | true =>
      rw [if_neg (by simp)]
      simp only [Attempt.bind_eq_ok_iff, Attempt.mapM_eq_ok_iff, Attempt.pure_eq_ok_iff, assign_eq_ok_iff]
      constructor
      · intro hx
        obtain ⟨results, htreated, rfl⟩ := hx
        exact .made hup hname htreated
      · intro h
        cases h with
        | aborted hyes => exact absurd hyes hup
        | unnameable _ hno => simp [hname] at hno
        | made _ _ htreated => exact ⟨_, htreated, rfl⟩

theorem emit_eq_error {e : MalformedIdent} (he : g.emit conforms policy roots = .error e) :
    ¬g.GivenUp conforms policy ∧ g.isNameable = true ∧
      ∃ d ∈ g.declarations, (∃ ref, typeRef? (g.imports conforms) policy d.type = some ref) ∧
        fieldIdent? d.field = .error e := by
  by_cases hup : g.GivenUp conforms policy
  · rw [emit_eq_ok_iff.mpr (.aborted hup)] at he
    cases he
  cases hname : g.isNameable with
  | false =>
    rw [emit_eq_ok_iff.mpr (.unnameable hup hname)] at he
    cases he
  | true =>
    rw [emit, if_neg (mt givenUp_iff.mp hup), if_neg (by simp [hname])] at he
    rcases Attempt.bind_eq_error_iff.mp he with he | ⟨_, _, he⟩
    · obtain ⟨d, hd, hassign⟩ := Attempt.exists_of_mapM_eq_error he
      exact ⟨hup, rfl, d, hd, assign_eq_error_iff.mp hassign⟩
    · cases he

theorem emit_fails_iff :
    (∃ e, g.emit conforms policy roots = .error e) ↔
      ¬g.GivenUp conforms policy ∧ g.isNameable = true ∧
        ∃ d ∈ g.declarations, (∃ ref, typeRef? (g.imports conforms) policy d.type = some ref) ∧
          ∃ e, fieldIdent? d.field = .error e := by
  constructor
  · intro hx
    obtain ⟨e, he⟩ := hx
    obtain ⟨hup, hname, d, hd, href, hfield⟩ := emit_eq_error he
    exact ⟨hup, hname, d, hd, href, e, hfield⟩
  · intro hx
    obtain ⟨hup, hname, d, hd, ⟨ref, href⟩, e, hfield⟩ := hx
    cases he : g.emit conforms policy roots with
    | error e => exact ⟨e, rfl⟩
    | ok emission =>
      cases emit_eq_ok_iff.mp he with
      | aborted hyes => exact absurd hyes hup
      | unnameable _ hno => simp [hname] at hno
      | made _ _ htreated =>
        obtain ⟨result, _, ht⟩ := Attempt.exists_partner htreated hd
        cases ht with
        | left hnone => simp [href] at hnone
        | refused _ hident => simp [hfield] at hident
        | assigned _ hident => simp [hfield] at hident

theorem Emitted.eq_unit {e : Emission} (he : g.Emitted conforms policy roots e) {u : BinderUnit}
    (hu : e.unit = some u) :
    g.isNameable = true ∧ ∃ results, List.Forall₂ (Treated (g.imports conforms) policy g.path) g.declarations results ∧
      u = g.unit conforms roots (assignmentsOf results) := by
  cases he with
  | aborted => cases hu
  | unnameable => cases hu
  | made _ hname htreated => exact ⟨hname, _, htreated, (Option.some.inj hu).symm⟩

theorem isSome_local?_imports (hc : ByType conforms) {d : FieldDecl} (hd : d ∈ g.declarations) :
    ((g.imports conforms).local? d.type).isSome = conforms d := by
  rw [ImportTable.isSome_local?, Bool.eq_iff_iff, imports, ImportTable.isSome_get?_withReserved]
  constructor
  · intro hx
    obtain ⟨e, he, htype⟩ := hx
    obtain ⟨_, he⟩ := List.mem_filter.mp he
    rw [← he]
    exact hc d e htype.symm
  · intro h
    exact ⟨d, List.mem_filter.mpr ⟨hd, h⟩, rfl⟩

theorem exists_typeRef?_iff (hc : ByType conforms) {d : FieldDecl} (hd : d ∈ g.declarations) :
    (∃ ref, typeRef? (g.imports conforms) policy d.type = some ref) ↔ conforms d = true ∨ policy = .emit := by
  rw [← isSome_local?_imports hc hd, typeRef?]
  cases (g.imports conforms).local? d.type with
  | none => by_cases hp : policy = .emit <;> simp [hp]
  | some name => simp

end HostGroup

section Results

variable {imports : ImportTable} {policy : InvalidFieldPolicy} {host : String} {ds : List FieldDecl}
  {results : List (Option (Except Diagnostic Assignment))}

/-- An assignment to a field, whose type is named by an import. -/
structure Assignment.Imports (a : Assignment) (field : String) (id : Int32) : Prop where
  field : a.field = field
  id : a.id = id
  imported : ∃ name, a.type = .imported name

theorem forall₂_imports_iff (h : List.Forall₂ (Treated imports policy host) ds results) :
    List.Forall₂ (fun d a => a.Imports d.field d.id) ds (assignmentsOf results) ↔
      (∀ d ∈ ds, (imports.local? d.type).isSome) ∧ refusalsOf results = [] := by
  induction h with
  | nil => simp
  | @cons d result ds results htreated hrest ih =>
    have hlen : (assignmentsOf results).length ≤ ds.length := by
      rw [hrest.length_eq]
      exact length_assignmentsOf_le results
    have htooFew : ¬List.Forall₂ (fun d a => a.Imports d.field d.id) (d :: ds) (assignmentsOf results) := by
      intro hall
      have := hall.length_eq
      rw [List.length_cons] at this
      omega
    cases htreated with
    | left hnone =>
      have hlocal : imports.local? d.type = none := by
        cases hl : imports.local? d.type with
        | none => rfl
        | some name => simp [typeRef?_eq_imported_iff.mpr hl] at hnone
      simp [htooFew, hlocal]
    | refused => simp [htooFew]
    | @assigned ref ident tokens href hident htokens =>
      rw [assignmentsOf_assigned, refusalsOf_assigned, List.forall₂_cons, ih, List.forall_mem_cons, and_assoc]
      apply and_congr_left
      intro _
      constructor
      · intro hx
        obtain ⟨_, _, name, hname⟩ := hx
        obtain rfl : ref = .imported name := hname
        simp [typeRef?_eq_imported_iff.mp href]
      · intro hsome
        obtain ⟨name, hname⟩ := Option.isSome_iff_exists.mp hsome
        obtain rfl := Option.some.inj (href.symm.trans (typeRef?_eq_imported_iff.mpr hname))
        exact ⟨rfl, rfl, name, rfl⟩

theorem sublistForall₂_assignmentsOf {R : Assignment → FieldDecl → Prop}
    (hR : ∀ d ∈ ds, ∀ ref, typeRef? imports policy d.type = some ref → R ⟨d.field, ref, d.id⟩ d)
    (h : List.Forall₂ (Treated imports policy host) ds results) :
    List.SublistForall₂ R (assignmentsOf results) ds := by
  induction h with
  | nil => exact .nil
  | @cons d result ds results htreated _ ih =>
    have hrest := ih fun d' hd => hR d' (List.mem_cons_of_mem _ hd)
    cases htreated with
    | left => exact .cons_right hrest
    | refused => exact .cons_right hrest
    | assigned href => exact .cons (hR d (by simp) _ href) hrest

theorem exists_code_of_mem_assignmentsOf (h : List.Forall₂ (Treated imports policy host) ds results)
    {a : Assignment} (ha : a ∈ assignmentsOf results) :
    ∃ i tokens, fieldIdent? a.field = .ok (some i) ∧ a.type.tokens? = some tokens := by
  induction h with
  | nil => simp at ha
  | cons htreated _ ih =>
    cases htreated with
    | left => exact ih ha
    | refused => exact ih ha
    | assigned _ hident htokens =>
      rcases List.mem_cons.mp ha with rfl | ha
      · exact ⟨_, _, hident, htokens⟩
      · exact ih ha

theorem fields_assignmentsOf_sublist (h : List.Forall₂ (Treated imports policy host) ds results) :
    ((assignmentsOf results).map Assignment.field).Sublist (ds.map FieldDecl.field) := by
  induction h with
  | nil => exact .slnil
  | cons htreated _ ih =>
    cases htreated with
    | left => exact ih.cons _
    | refused => exact ih.cons _
    | assigned => exact ih.cons_cons _

theorem exists_unassignable_of_mem_refusalsOf (h : List.Forall₂ (Treated imports policy host) ds results)
    {r : Diagnostic} (hr : r ∈ refusalsOf results) : ∃ d ∈ ds, r = .unassignable d.field host := by
  induction h with
  | nil => simp at hr
  | @cons d result ds results htreated _ ih =>
    have hlater : r ∈ refusalsOf results → ∃ d' ∈ d :: ds, r = .unassignable d'.field host := by
      intro hr
      obtain ⟨d', hd, he⟩ := ih hr
      exact ⟨d', List.mem_cons_of_mem _ hd, he⟩
    cases htreated with
    | left => exact hlater hr
    | refused =>
      rcases List.mem_cons.mp hr with rfl | hr
      · exact ⟨d, by simp, rfl⟩
      · exact hlater hr
    | assigned => exact hlater hr

end Results

end HostBinder

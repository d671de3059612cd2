import HostBinder.Proofs.Hierarchy.Cycle
import HostBinder.Proofs.RoutedErrors.Merging
import HostBinder.Proofs.Schema.Ancestry
import HostBinder.Schema.Rules
import Mathlib.Algebra.BigOperators.Fin

set_option autoImplicit false

/-!
The rules that a schema breaks, counted one by one from the declarations, against the report of its check. The
report is put together from the reports of nodes and fields, where several may share a route; it still has
one message for each broken rule, so that no broken rule hides another.
-/

namespace HostBinder

open Relation

def IsNameStart (c : Char) : Prop := ('a' ≤ c ∧ c ≤ 'z') ∨ ('A' ≤ c ∧ c ≤ 'Z') ∨ c = '_'

/-- An identifier of ASCII: a letter or underscore, and then letters, underscores and digits. -/
def IsIdentifier (s : String) : Prop :=
  ∃ c cs, s.toList = c :: cs ∧ IsNameStart c ∧ ∀ d ∈ cs, IsNameStart d ∨ ('0' ≤ d ∧ d ≤ '9')

theorem isNameStart_iff (c : Char) : (c.isAlpha || c == '_') = true ↔ IsNameStart c := by
  have halpha : c.isAlpha =
      (decide (65 ≤ c.val ∧ c.val ≤ 90) || decide (97 ≤ c.val) && decide (c.val ≤ 122)) := rfl
  simp only [halpha, Bool.or_eq_true, Bool.and_eq_true, decide_eq_true_eq, beq_iff_eq, IsNameStart]
  change ((65 ≤ c.val ∧ c.val ≤ 90) ∨ (97 ≤ c.val ∧ c.val ≤ 122)) ∨ c = '_' ↔
    (97 ≤ c.val ∧ c.val ≤ 122) ∨ (65 ≤ c.val ∧ c.val ≤ 90) ∨ c = '_'
  rw [or_assoc, or_left_comm]

theorem isPlainNameChar_iff (c : Char) :
    isPlainNameChar c = true ↔ IsNameStart c ∨ ('0' ≤ c ∧ c ≤ '9') := by
  rw [← isNameStart_iff, isPlainNameChar, Char.isAlphanum, Bool.or_right_comm, Bool.or_eq_true]
  apply or_congr_right
  simp only [Char.isDigit, Bool.and_eq_true, decide_eq_true_eq]
  rfl

theorem isPlainName_iff (s : String) : isPlainName s.toList = true ↔ IsIdentifier s := by
  rw [IsIdentifier]
  cases s.toList with
  | nil => simp [isPlainName]
  | cons c cs =>
    rw [isPlainName, Bool.and_eq_true, isNameStart_iff, List.all_eq_true]
    simp only [isPlainNameChar_iff, List.cons.injEq]
    constructor
    · intro h
      exact ⟨c, cs, ⟨rfl, rfl⟩, h⟩
    · rintro ⟨_, _, ⟨rfl, rfl⟩, h⟩
      exact h

instance (s : String) : Decidable (IsIdentifier s) := decidable_of_iff _ (isPlainName_iff s)

theorem colon_not_mem_of_isIdentifier {s : String} (h : IsIdentifier s) : ':' ∉ s.toList := by
  obtain ⟨c, cs, hs, hstart, hrest⟩ := h
  have hcolon : ¬IsNameStart ':' := by
    unfold IsNameStart
    decide
  rw [hs, List.mem_cons, not_or]
  refine ⟨fun heq => hcolon (heq ▸ hstart), fun hmem => ?_⟩
  rcases hrest ':' hmem with h | h
  · exact hcolon h
  · exact absurd h (by decide)

theorem nameFault?_eq_none_iff {limit? : Option Nat} {ident : String} :
    nameFault? limit? ident = none ↔ IsIdentifier ident ∧ ∀ limit ∈ limit?, ident.utf8ByteSize ≤ limit := by
  unfold nameFault?
  rw [← isPlainName_iff]
  by_cases hempty : ident = ""
  · subst hempty
    simp [isPlainName]
  rw [if_neg hempty]
  cases limit? with
  | none => simp
  | some limit =>
    by_cases hlong : limit < ident.utf8ByteSize
    · simp [hlong]
    · simp [hlong, Nat.not_lt.mp hlong]

theorem typeNameFault?_eq_none_iff {ident : String} :
    typeNameFault? ident = none ↔ IsIdentifier ident ∧ ident.utf8ByteSize ≤ 64 := by
  simp [typeNameFault?, nameFault?_eq_none_iff, maxTypeNameLength]

theorem fieldNameFault?_eq_none_iff {field : String} : fieldNameFault? field = none ↔ IsIdentifier field := by
  simp [fieldNameFault?, nameFault?_eq_none_iff]

def Schema.IsCyclic (s : Schema) : Prop := ∃ path, TransGen s.Extends path path

theorem Schema.isSome_cycle?_iff (s : Schema) : s.hierarchy.cycle?.isSome = true ↔ s.IsCyclic := by
  rw [Hierarchy.isSome_cycle?_iff, IsCyclic, ← hierarchy_extends]
  rfl

instance (s : Schema) : Decidable s.IsCyclic := decidable_of_iff _ s.isSome_cycle?_iff

/-- One for the name of the type, and one for its parent. -/
def Component.brokenRules (c : Component) : Nat :=
  (if IsIdentifier c.name.ident ∧ c.name.ident.utf8ByteSize ≤ 64 then 0 else 1) +
    (if c.extends? = some "" ∨ c.extends? = some c.name.path then 1 else 0)

/-- One for the name of the type, and up to three for each of its bindings. -/
def Host.brokenRules (h : Host) : Nat :=
  (if IsIdentifier h.name.ident ∧ h.name.ident.utf8ByteSize ≤ 64 then 0 else 1) +
    ∑ i : Fin h.bindings.length,
      ((if IsIdentifier h.bindings[i].field then 0 else 1) + (if h.bindings[i].type = "" then 1 else 0) +
        (if ∃ j < i, h.bindings[j].field = h.bindings[i].field then 1 else 0))

def Node.brokenRules : Node → Nat
  | .component c => c.brokenRules
  | .host h => h.brokenRules

/-- The rules broken by each node, and one for all supertype edges together. -/
def Schema.brokenRules (s : Schema) : Nat :=
  (s.nodes.entries.map fun e => e.2.brokenRules).sum + (if s.IsCyclic then 1 else 0)

def bindingViolations (path : String) : List String → List Binding → List (String × Violation)
  | _, [] => []
  | before, b :: rest =>
    (b.violations before).map (RoutedErrors.extendRoute path b.field, ·) ++
      bindingViolations path (before ++ [b.field]) rest

def Node.violations (path : String) : Node → List (String × Violation)
  | .component c => c.violations.map (path, ·)
  | .host h =>
    ((typeNameFault? h.name.ident).map Violation.name).toList.map (path, ·) ++
      bindingViolations path [] h.bindings

def Schema.violations (s : Schema) : List (String × Violation) :=
  (s.nodes.entries.flatMap fun e => e.2.violations e.1) ++
    (s.hierarchy.cycle?.map fun cycle => ("", .cyclicHierarchy cycle)).toList

namespace RoutedErrors

variable {μ : Type}

theorem flattenFrom_addAll (t : RoutedErrors μ) (ms : List μ) (path : String) :
    ((t.addAll ms).flattenFrom path).Perm (t.flattenFrom path ++ ms.map (path, ·)) := by
  induction ms generalizing t with
  | nil => simp [addAll]
  | cons m ms ih =>
    refine (ih (t.add m)).trans (((flattenFrom_add t m path).append_right _).trans ?_)
    simp

theorem flattenFrom_reportBindings (path : String) (before : List String) (bs : List Binding)
    (report : RoutedErrors Violation) :
    ((reportBindings before bs report).flattenFrom path).Perm
      (report.flattenFrom path ++ bindingViolations path before bs) := by
  induction bs generalizing before report with
  | nil => simp [reportBindings, bindingViolations]
  | cons b bs ih =>
    rw [reportBindings, bindingViolations, ← List.append_assoc]
    refine (ih _ _).trans (List.Perm.append_right _ ?_)
    refine (flattenFrom_addChild _ _ _ _).trans (List.Perm.append_left _ ?_)
    simpa using flattenFrom_addAll empty (b.violations before) (extendRoute path b.field)

end RoutedErrors

open RoutedErrors

theorem Node.flattenFrom_report (n : Node) (path : String) :
    (n.report.flattenFrom path).Perm (n.violations path) := by
  cases n with
  | component c => simpa [report, Component.report, violations] using flattenFrom_addAll empty c.violations path
  | host h =>
    rw [report, Host.report, violations]
    refine (flattenFrom_reportBindings _ _ _ _).trans (List.Perm.append_right _ ?_)
    simpa using flattenFrom_addAll empty ((typeNameFault? h.name.ident).map Violation.name).toList path

theorem flatten_foldl_addChild (entries : List (String × Node)) (report : RoutedErrors Violation) :
    (entries.foldl (fun report e => report.addChild e.1 e.2.report) report).flatten.Perm
      (report.flatten ++ entries.flatMap fun e => e.2.violations e.1) := by
  induction entries generalizing report with
  | nil => simp
  | cons e entries ih =>
    rw [List.foldl_cons, List.flatMap_cons, ← List.append_assoc]
    refine (ih _).trans (List.Perm.append_right _ ?_)
    refine (flattenFrom_addChild _ _ _ _).trans (List.Perm.append_left _ ?_)
    exact e.2.flattenFrom_report e.1

theorem Schema.flatten_report (s : Schema) : s.report.flatten.Perm s.violations := by
  have hnodes : s.reportNodes.flatten.Perm (s.nodes.entries.flatMap fun e => e.2.violations e.1) :=
    flatten_foldl_addChild s.nodes.entries .empty
  rw [report, reportCycle, violations]
  cases s.hierarchy.cycle? with
  | none => simpa using hnodes
  | some cycle =>
    refine (flattenFrom_add s.reportNodes _ "").trans ?_
    exact List.Perm.append_right _ hnodes

theorem length_toList_of_none_iff {α : Type} {o : Option α} {p : Prop} [Decidable p] (h : o = none ↔ p) :
    o.toList.length = if p then 0 else 1 := by
  cases o with
  | none => simp [h.mp rfl]
  | some a =>
    have hp : ¬p := by simp [← h]
    simp [hp]

theorem Component.length_violations (c : Component) : c.violations.length = c.brokenRules := by
  rw [violations, brokenRules, List.length_append,
    length_toList_of_none_iff (Option.map_eq_none_iff.trans typeNameFault?_eq_none_iff)]
  congr 1
  cases c.extends? with
  | none => simp
  | some parent =>
    by_cases hempty : parent = ""
    · simp [hempty]
    · by_cases hown : parent = c.name.path
      · simp [hown, hown ▸ hempty]
      · simp [hempty, hown]

def Repeats (before : List String) (bs : List Binding) (i : Fin bs.length) : Prop :=
  bs[i].field ∈ before ∨ ∃ j < i, bs[j].field = bs[i].field

instance (before : List String) (bs : List Binding) (i : Fin bs.length) : Decidable (Repeats before bs i) := by
  unfold Repeats
  infer_instance

theorem repeats_zero (before : List String) (b : Binding) (bs : List Binding) :
    Repeats before (b :: bs) 0 ↔ b.field ∈ before := by
  simp [Repeats]

theorem repeats_succ (before : List String) (b : Binding) (bs : List Binding) (i : Fin bs.length) :
    Repeats before (b :: bs) i.succ ↔ Repeats (before ++ [b.field]) bs i := by
  change ((bs[i].field ∈ before) ∨ ∃ j : Fin (bs.length + 1), j < i.succ ∧ (b :: bs)[j].field = bs[i].field) ↔ _
  simp [Repeats, Fin.exists_fin_succ, or_assoc, eq_comm]

theorem Binding.length_violations (b : Binding) (before : List String) :
    (b.violations before).length =
      (if IsIdentifier b.field then 0 else 1) + (if b.type = "" then 1 else 0) +
        (if b.field ∈ before then 1 else 0) := by
  rw [violations, List.length_append, List.length_append,
    length_toList_of_none_iff (Option.map_eq_none_iff.trans fieldNameFault?_eq_none_iff)]
  by_cases ht : b.type = "" <;> by_cases hb : b.field ∈ before <;> simp [ht, hb]

theorem length_bindingViolations (path : String) (before : List String) (bs : List Binding) :
    (bindingViolations path before bs).length =
      ∑ i : Fin bs.length,
        ((if IsIdentifier bs[i].field then 0 else 1) + (if bs[i].type = "" then 1 else 0) +
          (if Repeats before bs i then 1 else 0)) := by
  induction bs generalizing before with
  | nil => rfl
  | cons b bs ih =>
    rw [bindingViolations, List.length_append, List.length_map, b.length_violations, ih]
    simp only [List.length_cons, Fin.sum_univ_succ, repeats_zero, repeats_succ]
    rfl

theorem Node.length_violations (n : Node) (path : String) : (n.violations path).length = n.brokenRules := by
  cases n with
  | component c => rw [violations, List.length_map, c.length_violations, brokenRules]
  | host h =>
    rw [violations, List.length_append, List.length_map, length_bindingViolations,
      length_toList_of_none_iff (Option.map_eq_none_iff.trans typeNameFault?_eq_none_iff)]
    simp only [Repeats, List.not_mem_nil, false_or]
    rfl

theorem Schema.length_violations (s : Schema) : s.violations.length = s.brokenRules := by
  rw [violations, brokenRules, List.length_append, List.length_flatMap]
  simp only [Node.length_violations]
  congr 1
  cases hc : s.hierarchy.cycle? with
  | none => simp [← s.isSome_cycle?_iff, hc]
  | some cycle => simp [← s.isSome_cycle?_iff, hc]

theorem Schema.count_report (s : Schema) : s.report.count = s.brokenRules := by
  rw [← length_flatten, s.flatten_report.length_eq, s.length_violations]

theorem Schema.check_eq_ok_iff {s : Schema} : s.check = .ok () ↔ s.brokenRules = 0 := by
  rw [check, result_eq_ok_iff, count_report]

/-- A schema passes its check exactly when it breaks no rule. A report has as many messages as rules are
broken, and under each route the violations of what is declared there, none of them lost or told twice. -/
theorem Schema.check_counts_broken_rules (s : Schema) :
    match s.check with
    | .ok () => s.brokenRules = 0
    | .error report =>
      report.count = s.brokenRules ∧ s.brokenRules ≠ 0 ∧ report.flatten.Perm s.violations := by
  cases hc : s.check with
  | ok => exact check_eq_ok_iff.mp hc
  | error report =>
    obtain ⟨rfl, hne⟩ := result_eq_error hc
    exact ⟨s.count_report, by rwa [← s.count_report], s.flatten_report⟩

example : (Schema.ofNodes [.host ⟨⟨"app", "Main"⟩, [⟨"", "", 1⟩, ⟨"", "w::Label", 2⟩]⟩]).brokenRules = 4 := by
  decide +kernel

end HostBinder

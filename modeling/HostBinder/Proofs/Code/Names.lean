import HostBinder.Proofs.Binder.Groups
import HostBinder.Proofs.Code.Identifiers
import HostBinder.Proofs.Schema.BrokenRules
import Mathlib.Algebra.Order.BigOperators.Group.List
import Mathlib.Algebra.Order.Group.Nat

set_option autoImplicit false

namespace HostBinder

open Code

theorem isIdentStart_of_isNameStart {c : Char} (h : IsNameStart c) : Text.isIdentStart c = true := by
  rw [Text.isIdentStart, (isNameStart_iff c).mpr h, Bool.true_or]

theorem isIdentRest_of_isPlainNameChar {c : Char} (h : isPlainNameChar c = true) :
    Text.isIdentRest c = true := by
  rw [isPlainNameChar] at h
  rw [Text.isIdentRest, h, Bool.true_or]

theorem isIdentText_of_isIdentifier {s : String} (h : IsIdentifier s) : isIdentText s.toList = true := by
  obtain ⟨c, cs, hs, hc, hcs⟩ := h
  rw [hs, isIdentText, Bool.and_eq_true, List.all_eq_true]
  refine ⟨isIdentStart_of_isNameStart hc, fun d hd => ?_⟩
  exact isIdentRest_of_isPlainNameChar ((isPlainNameChar_iff d).mpr (hcs d hd))

theorem isIdentText_binderName {s : String} (h : isIdentText s.toList = true) :
    isIdentText (binderName s).toList = true := by
  obtain ⟨c, cs, hs, hc, hcs⟩ := isIdentText_eq_cons h
  have hsuffix : binderSuffix.toList.all Text.isIdentRest = true := by decide
  rw [binderName, String.toList_append, hs, List.cons_append, isIdentText, hc, List.all_append, hsuffix,
    List.all_eq_true.mpr hcs]
  rfl

theorem identOf_of_isIdentText {s : String} (h : isIdentText s.toList = true) : identOf s = .ok ⟨s, false⟩ := by
  rw [identOf]
  split
  · -- no identifier starts as a raw one does, for want of a number sign
    rename_i name heq
    rw [heq] at h
    have hmark : Text.isIdentRest '#' = false := by decide
    simp [isIdentText, hmark] at h
  · rw [if_pos h]

/-- The identifier is the code of a name: it spells the name, raw for reserved words only, and is read back from its
own text. -/
structure Code.Ident.Spells (i : Ident) (name : String) : Prop where
  spelling : i.name = name
  raw : i.raw = true ↔ name ∈ reservedWords
  read : nameOfText? i.text = some i

theorem spells_of_fieldIdent? {name : String} {i : Ident} (h : IsIdentifier name)
    (hi : fieldIdent? name = .ok (some i)) : i.Spells name := by
  have htext := isIdentText_of_isIdentifier h
  rw [fieldIdent?_of_isIdentText htext] at hi
  split at hi
  · cases hi
  · rename_i hrawable
    obtain rfl := Option.some.inj (Except.ok.inj hi)
    refine ⟨rfl, by simp, ?_⟩
    have htoken : Ident.IsToken ⟨name, decide (name ∈ reservedWords)⟩ := ⟨htext, fun _ => hrawable⟩
    have hname : Ident.isName ⟨name, decide (name ∈ reservedWords)⟩ = true := by
      by_cases hreserved : name ∈ reservedWords <;> simp [Ident.isName, hreserved]
    rw [nameOfText?_text htoken, if_pos hname]

theorem exists_fieldIdent?_of_isIdentifier {field : String} (h : IsIdentifier field) :
    ∃ i, fieldIdent? field = .ok i :=
  ⟨_, fieldIdent?_of_isIdentText (isIdentText_of_isIdentifier h)⟩

theorem Host.isIdentifier_of_brokenRules {h : Host} (hrules : h.brokenRules = 0) :
    IsIdentifier h.name.ident ∧ ∀ b ∈ h.bindings, IsIdentifier b.field := by
  simp only [brokenRules, Nat.add_eq_zero_iff, ite_eq_left_iff, one_ne_zero, imp_false, not_not,
    Finset.sum_eq_zero_iff, Finset.mem_univ, true_implies] at hrules
  obtain ⟨⟨hident, _⟩, hbindings⟩ := hrules
  refine ⟨hident, fun b hb => ?_⟩
  obtain ⟨i, hi, rfl⟩ := List.mem_iff_getElem.mp hb
  exact (hbindings ⟨i, hi⟩).1.1

theorem Host.nodup_fields_of_brokenRules {h : Host} (hrules : h.brokenRules = 0) :
    (h.bindings.map Binding.field).Nodup := by
  simp only [brokenRules, Nat.add_eq_zero_iff, ite_eq_left_iff, ite_eq_right_iff, one_ne_zero, imp_false,
    Finset.sum_eq_zero_iff, Finset.mem_univ, true_implies] at hrules
  obtain ⟨_, hbindings⟩ := hrules
  rw [List.Nodup, List.pairwise_map, List.pairwise_iff_getElem]
  intro i j hi hj hij heq
  exact (hbindings ⟨j, hj⟩).2 ⟨⟨i, hi⟩, hij, heq⟩

theorem Schema.brokenRules_of_check {s : Schema} (hcheck : s.check = .ok ()) {h : Host} (hh : h ∈ s.boundHosts) :
    h.brokenRules = 0 := by
  have hrules := (Nat.add_eq_zero_iff.mp (check_eq_ok_iff.mp hcheck)).1
  rw [List.sum_eq_zero_iff] at hrules
  obtain ⟨e, he, rfl⟩ := List.mem_map.mp (List.mem_filter.mp hh).1
  obtain ⟨⟨key, n⟩, hn, hhost⟩ := List.mem_filterMap.mp he
  cases n with
  | component c => cases hhost
  | host h' =>
    obtain rfl : (key, h') = e := Option.some.inj hhost
    exact hrules _ (List.mem_map.mpr ⟨_, hn, rfl⟩)

theorem Schema.isIdentifier_of_check {s : Schema} (hcheck : s.check = .ok ()) {h : Host} (hh : h ∈ s.boundHosts) :
    IsIdentifier h.name.ident ∧ ∀ b ∈ h.bindings, IsIdentifier b.field :=
  Host.isIdentifier_of_brokenRules (brokenRules_of_check hcheck hh)

end HostBinder

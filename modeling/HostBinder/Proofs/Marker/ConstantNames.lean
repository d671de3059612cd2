import HostBinder.Marker.Registration
import HostBinder.Proofs.Code.Identifiers
import HostBinder.Proofs.Text.Capitals

set_option autoImplicit false

namespace HostBinder.Marker

open Code HostBinder.Text

theorem identOf_of_underscore {s : String} {cs : List Char} (hs : s.toList = '_' :: cs) :
    identOf s = if cs.all isIdentRest then .ok ⟨s, false⟩ else .error ⟨s⟩ := by
  have hstart : isIdentStart '_' = true := by decide
  have htext : isIdentText ('_' :: cs) = cs.all isIdentRest := by rw [isIdentText, hstart, Bool.true_and]
  rw [identOf, hs, ← htext]
  rfl

theorem exists_identOf_iff {s : String} {cs : List Char} (hs : s.toList = '_' :: cs) :
    (∃ i, identOf s = .ok i) ↔ ∀ c ∈ cs, isIdentRest c = true := by
  rw [identOf_of_underscore hs, ← List.all_eq_true]
  by_cases hall : cs.all isIdentRest = true
  · simp [hall]
  · simp [hall]

def constantEnd : Marker → String
  | .component => "_COMPONENT_SCHEMA"
  | .host => "_HOST_SCHEMA"

theorem isIdentRest_of_mem_constantEnd {marker : Marker} {c : Char} (h : c ∈ (constantEnd marker).toList) :
    isIdentRest c = true := by
  have hall : (constantEnd marker).toList.all isIdentRest = true := by cases marker <;> decide
  exact List.all_eq_true.mp hall c h

theorem constantName_eq (marker : Marker) (type : Ident) :
    ∃ s, constantName marker type = identOf s ∧
      s.toList = '_' :: '_' :: ((upperSnakeCase type.text).toList ++ (constantEnd marker).toList) := by
  have htext : ∀ kind : String,
      ("__" ++ upperSnakeCase type.text ++ "_" ++ kind ++ "_SCHEMA").toList =
        '_' :: '_' :: ((upperSnakeCase type.text).toList ++ ("_" ++ kind ++ "_SCHEMA").toList) := by
    intro kind
    simp
  cases marker with
  | component => exact ⟨_, by rw [constantName], htext "COMPONENT"⟩
  | host => exact ⟨_, by rw [constantName], htext "HOST"⟩

theorem exists_constantName_iff {marker : Marker} {type : Ident} :
    (∃ c, constantName marker type = .ok c) ↔
      ∀ c ∈ (upperSnakeCase type.text).toList, isIdentRest c = true := by
  obtain ⟨s, hname, hs⟩ := constantName_eq marker type
  have hunderscore : isIdentRest '_' = true := by decide
  rw [hname, exists_identOf_iff hs, List.forall_mem_cons, List.forall_mem_append, and_iff_right hunderscore,
    and_iff_left fun _ => isIdentRest_of_mem_constantEnd]

theorem eq_of_constantName {marker : Marker} {type constant : Ident} (h : constantName marker type = .ok constant) :
    constant.raw = false ∧
      constant.name.toList = '_' :: '_' :: ((upperSnakeCase type.text).toList ++ (constantEnd marker).toList) := by
  obtain ⟨s, hname, hs⟩ := constantName_eq marker type
  rw [hname, identOf_of_underscore hs] at h
  split at h
  · cases h
    exact ⟨rfl, hs⟩
  · cases h

theorem isName_of_constantName {marker : Marker} {type constant : Ident} (h : constantName marker type = .ok constant) :
    constant.IsToken ∧ constant.isName = true := by
  obtain ⟨hraw, hname⟩ := eq_of_constantName h
  have hstart : isIdentStart '_' = true := by decide
  have hunderscore : isIdentRest '_' = true := by decide
  have hwords := exists_constantName_iff.mp ⟨constant, h⟩
  have hfree : ∀ w ∈ reservedWords, w.toList.take 2 ≠ ['_', '_'] := by decide +kernel
  have hnot : constant.name ∉ reservedWords := fun hmem => hfree constant.name hmem (by simp [hname])
  refine ⟨⟨?_, fun hyes => by simp [hraw] at hyes⟩, by simp [Ident.isName, hnot]⟩
  rw [hname, isIdentText, hstart, Bool.true_and, List.all_eq_true, List.forall_mem_cons, List.forall_mem_append]
  exact ⟨hunderscore, hwords, fun _ => isIdentRest_of_mem_constantEnd⟩

theorem constantName_eq_iff {marker : Marker} {type type' c c' : Ident} (hc : constantName marker type = .ok c)
    (hc' : constantName marker type' = .ok c') :
    c = c' ↔ upperSnakeCase type.text = upperSnakeCase type'.text := by
  obtain ⟨hraw, hname⟩ := eq_of_constantName hc
  obtain ⟨hraw', hname'⟩ := eq_of_constantName hc'
  have hparts : c = c' ↔ c.name = c'.name := by
    cases c
    cases c'
    simp_all
  rw [hparts, ← String.toList_inj, hname, hname', ← String.toList_inj]
  simp

theorem hash_mem_upperSnakeCase {type : Ident} (hraw : type.raw = true) :
    '#' ∈ (upperSnakeCase type.text).toList := by
  have hmem : '#' ∈ type.text.toList := by simp [Ident.text, hraw]
  have hupper : upperChar '#' = ['#'] := by decide
  have hsub := subset_upperSnakeCase (by decide) hmem
  rw [hupper] at hsub
  exact hsub List.mem_cons_self

theorem raw_eq_false_of_constantName {marker : Marker} {type constant : Ident}
    (h : constantName marker type = .ok constant) : type.raw = false := by
  rw [Bool.eq_false_iff]
  intro hraw
  have hhash := exists_constantName_iff.mp ⟨constant, h⟩ '#' (hash_mem_upperSnakeCase hraw)
  exact absurd hhash (by decide)

/-- The constant of a type can be named exactly if the type's name is not written raw. -/
theorem exists_constantName_iff_not_raw {marker : Marker} {type : Ident} (htoken : type.IsToken) :
    (∃ c, constantName marker type = .ok c) ↔ type.raw = false := by
  constructor
  · rintro ⟨c, hc⟩
    exact raw_eq_false_of_constantName hc
  · intro hraw
    have htext : type.text = type.name := by simp [Ident.text, hraw]
    rw [exists_constantName_iff, htext]
    exact fun c => isIdentRest_of_mem_upperSnakeCase (all_isIdentRest_of_isIdentText htoken.text)

end HostBinder.Marker

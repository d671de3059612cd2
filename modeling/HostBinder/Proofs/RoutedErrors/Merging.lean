import HostBinder.RoutedErrors
import Mathlib.Data.List.Perm.Basic

set_option autoImplicit false

namespace HostBinder.RoutedErrors

variable {μ : Type}

mutual

theorem length_flattenFrom (path : String) : ∀ t : RoutedErrors μ, (t.flattenFrom path).length = t.count
  | .node ms rs => by
    rw [flattenFrom, count, List.length_append, List.length_map, length_flattenAll path rs]

theorem length_flattenAll (path : String) :
    ∀ rs : List (String × RoutedErrors μ), (flattenAll path rs).length = countAll rs
  | [] => rfl
  | (route, t) :: rest => by
    rw [flattenAll, countAll, List.length_append, length_flattenFrom (extendRoute path route) t,
      length_flattenAll path rest]

end

mutual

theorem isEmpty_iff : ∀ t : RoutedErrors μ, t.isEmpty = true ↔ t.count = 0
  | .node ms rs => by
    rw [isEmpty, count, Bool.and_eq_true, List.isEmpty_iff, areEmpty_iff rs, Nat.add_eq_zero_iff,
      List.length_eq_zero_iff]

theorem areEmpty_iff : ∀ rs : List (String × RoutedErrors μ), areEmpty rs = true ↔ countAll rs = 0
  | [] => by simp [areEmpty, countAll]
  | (_, t) :: rest => by
    rw [areEmpty, countAll, Bool.and_eq_true, isEmpty_iff t, areEmpty_iff rest, Nat.add_eq_zero_iff]

end

theorem length_flatten (t : RoutedErrors μ) : t.flatten.length = t.count := length_flattenFrom "" t

theorem flattenFrom_eq_nil {t : RoutedErrors μ} (h : t.isEmpty = true) (path : String) :
    t.flattenFrom path = [] := by
  rw [← List.length_eq_zero_iff, length_flattenFrom]
  exact (isEmpty_iff t).mp h

theorem result_eq_ok_iff {t : RoutedErrors μ} : t.result = .ok () ↔ t.count = 0 := by
  rw [← isEmpty_iff, result]
  cases t.isEmpty <;> simp

theorem result_eq_error {t u : RoutedErrors μ} (h : t.result = .error u) : u = t ∧ t.count ≠ 0 := by
  rw [ne_eq, ← isEmpty_iff]
  unfold result at h
  cases ht : t.isEmpty with
  | true => simp [ht] at h
  | false => simpa [ht, eq_comm] using h

@[simp] theorem flattenFrom_empty (path : String) : (empty : RoutedErrors μ).flattenFrom path = [] := rfl

@[simp] theorem messages_node (ms : List μ) (rs : List (String × RoutedErrors μ)) :
    (node ms rs).messages = ms := rfl

@[simp] theorem routes_node (ms : List μ) (rs : List (String × RoutedErrors μ)) :
    (node ms rs).routes = rs := rfl

theorem flattenFrom_eq (path : String) (t : RoutedErrors μ) :
    t.flattenFrom path = t.messages.map (path, ·) ++ flattenAll path t.routes := by
  cases t
  rfl

theorem flattenAll_alterEntry {path route : String} {f : Option (RoutedErrors μ) → RoutedErrors μ}
    {added : List (String × μ)}
    (hf : ∀ old, ((f old).flattenFrom (extendRoute path route)).Perm
      ((old.getD empty).flattenFrom (extendRoute path route) ++ added))
    (onto : List (String × RoutedErrors μ)) :
    (flattenAll path (alterEntry route f onto)).Perm (flattenAll path onto ++ added) := by
  induction onto with
  | nil => simpa [alterEntry, flattenAll] using hf none
  | cons e rest ih =>
    obtain ⟨r, t⟩ := e
    rw [alterEntry]
    split
    · have hnew : ((f none).flattenFrom (extendRoute path route)).Perm added := by simpa using hf none
      rw [flattenAll]
      exact (hnew.append_right _).trans List.perm_append_comm
    · split
      · rename_i heq
        subst heq
        rw [flattenAll, flattenAll]
        refine ((hf (some t)).append_right _).trans ?_
        rw [Option.getD_some, List.append_assoc, List.append_assoc]
        exact List.perm_append_comm.append_left _
      · rw [flattenAll, flattenAll, List.append_assoc]
        exact ih.append_left _

mutual

theorem flattenFrom_merge (t : RoutedErrors μ) :
    ∀ (u : RoutedErrors μ) (path : String),
      ((t.merge u).flattenFrom path).Perm (t.flattenFrom path ++ u.flattenFrom path)
  | .node ms rs, path => by
    rw [merge, flattenFrom, flattenFrom, flattenFrom_eq path t, List.map_append, List.append_assoc,
      List.append_assoc]
    refine List.Perm.append_left _ ?_
    refine ((flattenAll_graft t.routes rs path).append_left _).trans ?_
    rw [← List.append_assoc, ← List.append_assoc]
    exact List.perm_append_comm.append_right _

theorem flattenAll_graft (onto : List (String × RoutedErrors μ)) :
    ∀ (rs : List (String × RoutedErrors μ)) (path : String),
      (flattenAll path (graft onto rs)).Perm (flattenAll path onto ++ flattenAll path rs)
  | [], path => by simp [graft, flattenAll]
  | (route, t) :: rest, path => by
    rw [graft, flattenAll]
    refine (flattenAll_graft _ rest path).trans ?_
    rw [← List.append_assoc]
    refine List.Perm.append_right _ ?_
    split
    · -- an empty child is left out, and has no messages to lose
      rename_i hempty
      rw [flattenFrom_eq_nil hempty, List.append_nil]
    · exact flattenAll_alterEntry (fun old => flattenFrom_merge (old.getD empty) t _) onto

end

theorem flattenFrom_addChild (t child : RoutedErrors μ) (route path : String) :
    ((t.addChild route child).flattenFrom path).Perm
      (t.flattenFrom path ++ child.flattenFrom (extendRoute path route)) := by
  rw [addChild, flattenFrom, flattenFrom_eq path t, List.append_assoc]
  refine List.Perm.append_left _ ((flattenAll_graft _ _ path).trans ?_)
  simp [flattenAll]

theorem flattenFrom_add (t : RoutedErrors μ) (m : μ) (path : String) :
    ((t.add m).flattenFrom path).Perm (t.flattenFrom path ++ [(path, m)]) := by
  rw [add, flattenFrom, flattenFrom_eq path t, List.map_append, List.append_assoc, List.append_assoc]
  exact List.perm_append_comm.append_left _

@[simp] theorem count_empty : (empty : RoutedErrors μ).count = 0 := rfl

theorem count_merge (t u : RoutedErrors μ) : (t.merge u).count = t.count + u.count := by
  have hperm := flattenFrom_merge t u ""
  rw [← length_flattenFrom "", ← length_flattenFrom "" t, ← length_flattenFrom "" u, ← List.length_append]
  exact hperm.length_eq

theorem count_addChild (t child : RoutedErrors μ) (route : String) :
    (t.addChild route child).count = t.count + child.count := by
  have hperm := flattenFrom_addChild t child route ""
  rw [← length_flattenFrom "", ← length_flattenFrom "" t, ← length_flattenFrom (extendRoute "" route) child,
    ← List.length_append]
  exact hperm.length_eq

end HostBinder.RoutedErrors

import Mathlib.Data.List.Forall2

set_option autoImplicit false

namespace HostBinder.Attempt

variable {ε α β : Type}

theorem bind_eq_ok_iff {x : Except ε α} {f : α → Except ε β} {b : β} :
    (x >>= f) = .ok b ↔ ∃ a, x = .ok a ∧ f a = .ok b := by
  cases x <;> simp [bind, Except.bind]

theorem bind_eq_error_iff {x : Except ε α} {f : α → Except ε β} {e : ε} :
    (x >>= f) = .error e ↔ x = .error e ∨ ∃ a, x = .ok a ∧ f a = .error e := by
  cases x <;> simp [bind, Except.bind]

theorem pure_eq_ok_iff {a b : α} : (pure a : Except ε α) = .ok b ↔ a = b := by
  simp [pure, Except.pure]

theorem throw_eq_ok_iff {e : ε} {a : α} : (throw e : Except ε α) = .ok a ↔ False := by
  simp [throw, throwThe, MonadExceptOf.throw]

theorem ite_throw_eq_ok_iff {c : Prop} [Decidable c] {e : ε} {f : β → Except ε α} {x : Except ε α} {a : α} :
    (if c then (throw e : Except ε β) >>= f else x) = .ok a ↔ ¬c ∧ x = .ok a := by
  by_cases hc : c <;> simp [hc, bind_eq_ok_iff, throw_eq_ok_iff]

theorem mapError_eq_ok_iff {ε' : Type} {g : ε → ε'} {x : Except ε α} {a : α} : x.mapError g = .ok a ↔ x = .ok a := by
  cases x <;> simp [Except.mapError]

theorem mapM_eq_ok_iff {f : α → Except ε β} {as : List α} {bs : List β} :
    as.mapM f = .ok bs ↔ List.Forall₂ (fun a b => f a = .ok b) as bs := by
  induction as generalizing bs with
  | nil =>
    rw [List.mapM_nil, pure_eq_ok_iff, List.forall₂_nil_left_iff]
    exact eq_comm
  | cons a as ih =>
    simp only [List.mapM_cons, bind_eq_ok_iff, pure_eq_ok_iff, ih, List.forall₂_cons_left_iff]
    constructor
    · intro hx
      obtain ⟨b, hb, rest, hrest, rfl⟩ := hx
      exact ⟨b, rest, hb, hrest, rfl⟩
    · intro hx
      obtain ⟨b, rest, hb, hrest, rfl⟩ := hx
      exact ⟨b, hb, rest, hrest, rfl⟩

theorem exists_partner {γ : Type} {R : α → γ → Prop} {as : List α} {cs : List γ} (h : List.Forall₂ R as cs) {a : α}
    (ha : a ∈ as) : ∃ c ∈ cs, R a c := by
  induction h with
  | nil => cases ha
  | @cons a' c _ _ hr _ ih =>
    rcases List.mem_cons.mp ha with rfl | ha
    · exact ⟨c, List.mem_cons_self, hr⟩
    · obtain ⟨c', hc, hr'⟩ := ih ha
      exact ⟨c', List.mem_cons_of_mem _ hc, hr'⟩

theorem exists_of_mapM_eq_error {f : α → Except ε β} {as : List α} {e : ε} (h : as.mapM f = .error e) :
    ∃ a ∈ as, f a = .error e := by
  induction as with
  | nil => cases h
  | cons a as ih =>
    rw [List.mapM_cons, bind_eq_error_iff] at h
    rcases h with h | ⟨b, _, h⟩
    · exact ⟨a, by simp, h⟩
    · rcases bind_eq_error_iff.mp h with h | ⟨_, _, h⟩
      · obtain ⟨a', ha, he⟩ := ih h
        exact ⟨a', List.mem_cons_of_mem _ ha, he⟩
      · cases h

theorem mapM_congr {f f' : α → Except ε β} {as : List α} (h : ∀ a ∈ as, f a = f' a) : as.mapM f = as.mapM f' := by
  induction as with
  | nil => rfl
  | cons a as ih =>
    rw [List.mapM_cons, List.mapM_cons, h a List.mem_cons_self, ih fun a' ha => h a' (List.mem_cons_of_mem _ ha)]

theorem foldlM_congr {f f' : β → α → Except ε β} {as : List α} {b : β} (h : ∀ b, ∀ a ∈ as, f b a = f' b a) :
    as.foldlM f b = as.foldlM f' b := by
  induction as generalizing b with
  | nil => rfl
  | cons a as ih =>
    rw [List.foldlM_cons, List.foldlM_cons, h b a List.mem_cons_self]
    congr 1
    funext b'
    exact ih fun b a' ha => h b a' (List.mem_cons_of_mem _ ha)

theorem exists_of_foldlM_eq_error {f : β → α → Except ε β} {as : List α} {b : β} {e : ε}
    (h : as.foldlM f b = .error e) : ∃ a ∈ as, ∃ b', f b' a = .error e := by
  induction as generalizing b with
  | nil => cases h
  | cons a as ih =>
    rw [List.foldlM_cons, bind_eq_error_iff] at h
    rcases h with h | ⟨b', _, h⟩
    · exact ⟨a, by simp, b, h⟩
    · obtain ⟨a', ha, he⟩ := ih h
      exact ⟨a', List.mem_cons_of_mem _ ha, he⟩

end HostBinder.Attempt

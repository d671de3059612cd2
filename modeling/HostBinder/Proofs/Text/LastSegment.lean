import HostBinder.Text.Segments

set_option autoImplicit false

namespace HostBinder.Text

variable {cs ds : List Char}

theorem afterLastColons?_cons_of_some {c : Char} (h : afterLastColons? cs = some ds) :
    afterLastColons? (c :: cs) = some ds := by
  unfold afterLastColons?
  rw [h]

theorem afterLastColons?_of_not_mem (h : ':' ∉ cs) : afterLastColons? cs = none := by
  induction cs with
  | nil => rfl
  | cons c cs ih =>
    rw [List.mem_cons, not_or] at h
    obtain ⟨hc, hcs⟩ := h
    unfold afterLastColons?
    rw [ih hcs]
    split
    · rename_i heq
      cases heq
    · split
      · exact absurd rfl hc
      · rfl

theorem afterLastColons?_append (hds : ':' ∉ ds) : afterLastColons? (cs ++ ':' :: ':' :: ds) = some ds := by
  induction cs with
  | nil =>
    have hcolon : afterLastColons? (':' :: ds) = none := by
      unfold afterLastColons?
      rw [afterLastColons?_of_not_mem hds]
      split
      · rename_i heq
        cases heq
      · split
        · exact absurd List.mem_cons_self hds
        · rfl
    rw [List.nil_append]
    unfold afterLastColons?
    rw [hcolon]
    rfl
  | cons c cs ih => exact afterLastColons?_cons_of_some ih

theorem subset_of_afterLastColons? (h : afterLastColons? cs = some ds) : ds ⊆ cs := by
  induction cs with
  | nil => cases h
  | cons c cs ih =>
    unfold afterLastColons? at h
    split at h
    · rename_i heq
      cases h
      exact List.subset_cons_of_subset _ (ih heq)
    · split at h
      · cases h
        exact fun d hd => List.mem_cons_of_mem _ (List.mem_cons_of_mem _ hd)
      · cases h

theorem lastSegment_eq_self {path : String} (h : ':' ∉ path.toList) : lastSegment path = path := by
  unfold lastSegment
  rw [afterLastColons?_of_not_mem h]

theorem lastSegment_append {modulePath ident : String} (h : ':' ∉ ident.toList) :
    lastSegment (modulePath ++ "::" ++ ident) = ident := by
  have hchars : (modulePath ++ "::" ++ ident).toList = modulePath.toList ++ ':' :: ':' :: ident.toList := by
    simp
  unfold lastSegment
  rw [hchars, afterLastColons?_append h]
  simp

theorem toList_lastSegment_subset (path : String) : (lastSegment path).toList ⊆ path.toList := by
  unfold lastSegment
  split
  · rename_i rest heq
    rw [String.toList_ofList]
    exact subset_of_afterLastColons? heq
  · exact List.Subset.refl _

end HostBinder.Text

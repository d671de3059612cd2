import HostBinder.Marker.Host
import HostBinder.Proofs.Attempt
import HostBinder.Proofs.Code.Constants
import HostBinder.Schema.Basic

set_option autoImplicit false

namespace HostBinder

open Code

namespace Marker

theorem ite_refuse_eq_ok_iff {α β : Type} {c : Prop} [Decidable c] {r : Refusal} {f : β → Expansion α}
    {x : Expansion α} {a : α} : (if c then refuse r >>= f else x) = .ok a ↔ ¬c ∧ x = .ok a :=
  Attempt.ite_throw_eq_ok_iff

theorem expandHost_eq_ok {roots : CrateRoots} {args item code : Tokens} (h : expandHost roots args item = .ok code) :
    ∃ i fields bound written, markedItem item = .ok i ∧ i.kind = .struct (.named fields) ∧
      boundFields fields.items = .ok bound ∧
      expansion .host roots i.name written (bindingsField roots bound) = .ok code := by
  rw [expandHost, Attempt.bind_eq_ok_iff] at h
  obtain ⟨arguments, _, h⟩ := h
  simp only [ite_refuse_eq_ok_iff, Attempt.bind_eq_ok_iff] at h
  obtain ⟨_, i, hi, _, h⟩ := h
  cases hkind : i.kind with
  | struct fields =>
    cases fields with
    | named fields =>
      simp only [hkind, Attempt.bind_eq_ok_iff, Attempt.mapError_eq_ok_iff] at h
      obtain ⟨bound, hbound, h⟩ := h
      exact ⟨i, fields, bound, _, hi, hkind, hbound, h⟩
    | positional types =>
      rw [hkind] at h
      cases h
    | unit =>
      rw [hkind] at h
      cases h
  | enumeration variants =>
    rw [hkind] at h
    cases h
  | union fields =>
    rw [hkind] at h
    cases h

end Marker

end HostBinder

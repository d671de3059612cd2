import HostBinder.Injection.Dispatch

set_option autoImplicit false

namespace HostBinder

/-- The result of injecting a host through a registry, and the host afterwards. They depend on what is registered under
the name of the unit and, if that is for hosts of this type, on what the binder does. -/
inductive Registry.Dispatches (r : Registry) (t : Target) : Except DispatchError Unit → Target → Prop where
  | missing : r.handles.get? t.type.unit = none → r.Dispatches t (.error (.unitNotFound t.type.unit)) t
  | mismatched {h : Handle} : r.handles.get? t.type.unit = some h → h.type ≠ t.type →
    r.Dispatches t (.error (.handleMismatch t.type.unit t.type.path)) t
  | injected {h : Handle} {after : Target} : r.handles.get? t.type.unit = some h → h.type = t.type →
    h.inject t = (.ok (), after) → r.Dispatches t (.ok ()) after
  | stopped {h : Handle} {reason : InjectError} {after : Target} : r.handles.get? t.type.unit = some h →
    h.type = t.type → h.inject t = (.error reason, after) →
    r.Dispatches t (.error (.injection t.type.unit reason)) after

namespace Registry

variable {r : Registry} {t after : Target} {result : Except DispatchError Unit}

theorem tryInject_of_none (hnone : r.handles.get? t.type.unit = none) :
    r.tryInject t = (.error (.unitNotFound t.type.unit), t) := by
  rw [tryInject, get, hnone]

theorem tryInject_of_mismatch {h : Handle} (hfound : r.handles.get? t.type.unit = some h) (htype : h.type ≠ t.type) :
    r.tryInject t = (.error (.handleMismatch t.type.unit t.type.path), t) := by
  have hget : r.get t.type t.type.unit = .error (.handleMismatch t.type.unit t.type.path) := by
    rw [get, hfound]
    exact if_neg htype
  rw [tryInject, hget]

theorem tryInject_of_match {h : Handle} (hfound : r.handles.get? t.type.unit = some h) (htype : h.type = t.type) :
    r.tryInject t = ((h.inject t).1.mapError (.injection t.type.unit), (h.inject t).2) := by
  have hget : r.get t.type t.type.unit = .ok h.inject := by
    rw [get, hfound]
    exact if_pos htype
  rw [tryInject, hget]

theorem dispatches_tryInject (r : Registry) (t : Target) : r.Dispatches t (r.tryInject t).1 (r.tryInject t).2 := by
  cases hfound : r.handles.get? t.type.unit with
  | none =>
    rw [tryInject_of_none hfound]
    exact .missing hfound
  | some h =>
    by_cases htype : h.type = t.type
    · rw [tryInject_of_match hfound htype]
      cases hinject : (h.inject t).1 with
      | error reason => exact .stopped hfound htype (Prod.ext hinject rfl)
      | ok => exact .injected hfound htype (Prod.ext hinject rfl)
    · rw [tryInject_of_mismatch hfound htype]
      exact .mismatched hfound htype

theorem Dispatches.eq_tryInject (h : r.Dispatches t result after) : r.tryInject t = (result, after) := by
  cases h with
  | missing hfound => exact tryInject_of_none hfound
  | mismatched hfound htype => exact tryInject_of_mismatch hfound htype
  | injected hfound htype hinject =>
    rw [tryInject_of_match hfound htype, hinject]
    rfl
  | stopped hfound htype hinject =>
    rw [tryInject_of_match hfound htype, hinject]
    rfl

theorem dispatches_iff : r.Dispatches t result after ↔ r.tryInject t = (result, after) := by
  constructor
  · exact Dispatches.eq_tryInject
  · intro h
    have hdispatches := r.dispatches_tryInject t
    rwa [h] at hdispatches

theorem Dispatches.unit_eq {e : DispatchError} (h : r.Dispatches t (.error e) after) : e.unit = unitName t.type.path := by
  cases h with
  | missing => rfl
  | mismatched => rfl
  | stopped => rfl

end Registry

namespace Program

def outcomeEvent (t : Target) : Except DispatchError Unit → Event
  | .ok () => .injected t.type.path
  | .error e => .injectionFailed t.type.path e

theorem inject_eq (p : Program) (t : Target) :
    p.inject t = ((p.tryInject t).1.isOk, (p.tryInject t).2, p.tell (outcomeEvent t (p.tryInject t).1)) := by
  rw [inject, attempt_eq, tryInject_eq]
  rcases p.registry.tryInject t with ⟨_ | _, after⟩ <;> rfl

end Program

/-- What the ways to inject the host `t` have in common, and what each does besides, where `r` is the registry: by itself,
or as that of a program that has told some events. -/
structure Registry.InjectsAlike (r : Registry) (t : Target) : Prop where
  dispatches : ∀ result after, r.tryInject t = (result, after) ↔ r.Dispatches t result after
  attempts : ∀ events, (Program.mk r events).tryInject t = r.tryInject t
  /-- It tells nothing and leaves the registry as it is. -/
  quiet : ∀ events, ((Program.mk r events).attempt t).2.2 = ⟨r, events⟩
  answers : ∀ events, ((Program.mk r events).inject t).1 = true ↔ (r.tryInject t).1 = .ok ()
  leaves : ∀ events, ((Program.mk r events).inject t).2.1 = (r.tryInject t).2
  /-- One event is told and the registry is kept. The event is for debugging if the attempt goes well; otherwise it is an
  error that names the host and the unit and has the text of what has failed. -/
  tells : ∀ events, ∃ e, ((Program.mk r events).inject t).2.2 = ⟨r, events ++ [e]⟩ ∧
    ((r.tryInject t).1 = .ok () → e.level = .debug ∧
      e.fields = [("message", .text "view bindings injected"), ("host", .text t.type.path)]) ∧
    ∀ failure, (r.tryInject t).1 = .error failure → e.level = .error ∧
      e.fields = [("message", .text "view injection failed"), ("host", .text t.type.path),
        ("unit", .text (unitName t.type.path)), ("error", .text failure.message)]
  untouched : r.handles.get? t.type.unit = none ∨
    (∃ h, r.handles.get? t.type.unit = some h ∧ h.type ≠ t.type) → (r.tryInject t).2 = t
  names : ∀ failure, (r.tryInject t).1 = .error failure → failure.unit = unitName t.type.path

/-- All ways to inject a host agree, whatever is registered and whatever the binder does. -/
theorem injections_agree (r : Registry) (t : Target) : r.InjectsAlike t where
  dispatches result after := Registry.dispatches_iff.symm
  attempts events := Program.tryInject_eq _ _
  quiet events := by rw [Program.attempt_eq]
  answers events := by
    rw [Program.inject_eq, Program.tryInject_eq]
    rcases (r.tryInject t).1 with _ | _ <;> simp [Except.isOk, Except.toBool]
  leaves events := by
    rw [Program.inject_eq]
    rfl
  tells events := by
    refine ⟨Program.outcomeEvent t (r.tryInject t).1, ?_, fun hok => ?_, fun failure hfailure => ?_⟩
    · rw [Program.inject_eq]
      rfl
    · rw [hok]
      exact ⟨rfl, rfl⟩
    · have hunit : failure.unit = unitName t.type.path := by
        have hdispatches := r.dispatches_tryInject t
        rw [hfailure] at hdispatches
        exact hdispatches.unit_eq
      rw [hfailure, ← hunit]
      exact ⟨rfl, rfl⟩
  untouched h := by
    rcases h with hnone | ⟨found, hsome, hne⟩
    · rw [Registry.tryInject_of_none hnone]
    · rw [Registry.tryInject_of_mismatch hsome hne]
  names failure hfailure := by
    have hdispatches := r.dispatches_tryInject t
    rw [hfailure] at hdispatches
    exact hdispatches.unit_eq

end HostBinder

import HostBinder.Injection.Dispatch
import HostBinder.Proofs.Text.ByteOrder
import Mathlib.Data.List.Basic

set_option autoImplicit false

namespace HostBinder

open Text

abbrev Registrations := List (String × Handle)

namespace Registrations

def units (rs : Registrations) : List String := rs.map (·.1)

/-- Whether `h` was registered under the name and nothing after it. -/
def Ends (rs : Registrations) (unit : String) (h : Handle) : Prop :=
  ∃ before after : Registrations, rs = before ++ (unit, h) :: after ∧ unit ∉ after.units

variable {rs : Registrations} {unit : String} {h : Handle}

theorem lookup_reverse_eq_some_iff : rs.reverse.lookup unit = some h ↔ rs.Ends unit h := by
  rw [List.lookup_eq_some_iff]
  constructor
  · rintro ⟨after, before, hrs, hafter⟩
    refine ⟨before.reverse, after.reverse, by simpa using congrArg List.reverse hrs, fun hmem => ?_⟩
    obtain ⟨e, he, heq⟩ := List.mem_map.mp hmem
    simpa [heq] using hafter e (List.mem_reverse.mp he)
  · rintro ⟨before, after, rfl, hafter⟩
    refine ⟨after.reverse, before.reverse, by simp, fun e he => ?_⟩
    have hne : unit ≠ e.1 := fun heq => hafter (List.mem_map.mpr ⟨e, List.mem_reverse.mp he, heq.symm⟩)
    simpa using hne

theorem lookup_reverse_eq_none_iff : rs.reverse.lookup unit = none ↔ unit ∉ rs.units := by
  rw [List.lookup_eq_none_iff, units, List.mem_map]
  constructor
  · rintro h ⟨e, he, rfl⟩
    simpa using h e (List.mem_reverse.mpr he)
  · intro h e he
    simpa using fun heq => h ⟨e, List.mem_reverse.mp he, heq.symm⟩

end Registrations

namespace Registry

variable {r : Registry} {rs : Registrations} {unit : String} {h : Handle}

def registerAll (r : Registry) (rs : Registrations) : Registry :=
  rs.foldl (fun r e => (r.containsThenRegister e.1 e.2).2) r

def answers (r : Registry) : Registrations → List Bool
  | [] => []
  | (unit, h) :: rs => (r.containsThenRegister unit h).1 :: (r.containsThenRegister unit h).2.answers rs

theorem get?_register (r : Registry) (unit : String) (h : Handle) (key : String) :
    (r.register unit h).handles.get? key = if key = unit then some h else r.handles.get? key := by
  split
  · rename_i heq
    rw [heq]
    exact r.handles.get?_insert_self unit h
  · exact r.handles.get?_insert_of_ne h (by assumption)

theorem get?_registerAll (r : Registry) (rs : Registrations) (key : String) :
    (r.registerAll rs).handles.get? key = (rs.reverse.lookup key).or (r.handles.get? key) := by
  induction rs generalizing r with
  | nil => rfl
  | cons e rs ih =>
    obtain ⟨unit, h⟩ := e
    have hone : ([(unit, h)].lookup key).or (r.handles.get? key) = (r.register unit h).handles.get? key := by
      rw [get?_register]
      by_cases heq : key = unit
      · simp [heq]
      · rw [List.lookup_cons, beq_false_of_ne heq, if_neg heq]
        rfl
    rw [registerAll, List.foldl_cons, ← registerAll, ih, List.reverse_cons, List.lookup_append, Option.or_assoc, hone]
    rfl

theorem get?_registerAll_empty (rs : Registrations) (key : String) :
    (empty.registerAll rs).handles.get? key = rs.reverse.lookup key := by
  rw [get?_registerAll]
  exact Option.or_none

theorem get_of_ends (hends : rs.Ends unit h) (type : HostType) :
    (empty.registerAll rs).get type unit =
      if h.type = type then .ok h.inject else .error (.handleMismatch unit type.path) := by
  rw [get, get?_registerAll_empty, Registrations.lookup_reverse_eq_some_iff.mpr hends]

theorem get_of_not_mem (hunit : unit ∉ rs.units) (type : HostType) :
    (empty.registerAll rs).get type unit = .error (.unitNotFound unit) := by
  rw [get, get?_registerAll_empty, Registrations.lookup_reverse_eq_none_iff.mpr hunit]

theorem tryInject_of_ends {t : Target} (hends : rs.Ends t.type.unit h) (htype : h.type = t.type) :
    (empty.registerAll rs).tryInject t =
      ((h.inject t).1.mapError (.injection t.type.unit), (h.inject t).2) := by
  rw [tryInject, get_of_ends hends, if_pos htype]

theorem mem_units_registerAll_iff : unit ∈ (empty.registerAll rs).units ↔ unit ∈ rs.units := by
  rw [units, ← not_iff_not, ← SortedTable.get?_eq_none_iff, get?_registerAll_empty,
    Registrations.lookup_reverse_eq_none_iff]

theorem contains_registerAll (rs : Registrations) (unit : String) :
    (empty.registerAll rs).contains unit = decide (unit ∈ rs.units) := by
  rw [Bool.eq_iff_iff, decide_eq_true_iff]
  exact SortedTable.contains_iff_mem_keys.trans mem_units_registerAll_iff

theorem length_answers (r : Registry) (rs : Registrations) : (r.answers rs).length = rs.length := by
  induction rs generalizing r with
  | nil => rfl
  | cons e rs ih => rw [answers, List.length_cons, ih, List.length_cons]

theorem answers_append (r : Registry) (before rs : Registrations) :
    r.answers (before ++ rs) = r.answers before ++ (r.registerAll before).answers rs := by
  induction before generalizing r with
  | nil => rfl
  | cons e before ih => rw [List.cons_append, answers, answers, ih]; rfl

end Registry

def Registrations.warnings (rs : Registrations) (answers : List Bool) : List Event :=
  ((rs.zip answers).filter (·.2)).map fun e => .registeredTwice e.1.1

namespace Program

def registerAll (p : Program) (rs : Registrations) : Program := rs.foldl (fun p e => p.register e.1 e.2) p

theorem register_eq (p : Program) (unit : String) (h : Handle) :
    p.register unit h =
      ⟨(p.registry.containsThenRegister unit h).2,
        p.events ++ if (p.registry.containsThenRegister unit h).1 then [.registeredTwice unit] else []⟩ := by
  unfold register tell Registry.containsThenRegister
  cases p.registry.contains unit <;> simp

theorem registerAll_eq (p : Program) (rs : Registrations) :
    p.registerAll rs = ⟨p.registry.registerAll rs, p.events ++ rs.warnings (p.registry.answers rs)⟩ := by
  induction rs generalizing p with
  | nil => simp [registerAll, Registrations.warnings, Registry.registerAll]
  | cons e rs ih =>
    have hwarnings : Registrations.warnings (e :: rs) (p.registry.answers (e :: rs)) =
        (if (p.registry.containsThenRegister e.1 e.2).1 then [.registeredTwice e.1] else []) ++
          Registrations.warnings rs ((p.registry.containsThenRegister e.1 e.2).2.answers rs) := by
      cases hreplaced : (p.registry.containsThenRegister e.1 e.2).1 <;>
        simp [Registry.answers, Registrations.warnings, hreplaced]
    rw [registerAll, List.foldl_cons, ← registerAll, ih, register_eq, hwarnings, List.append_assoc]
    rfl

end Program

/-- What is known after registrations of the registry that they have made, and of what they were told. -/
structure Registrations.Kept (rs : Registrations) (r : Registry) (answers : List Bool) : Prop where
  handed : ∀ unit h, rs.Ends unit h → r.get h.type unit = .ok h.inject
  refused : ∀ unit h type, rs.Ends unit h → h.type ≠ type → r.get type unit = .error (.handleMismatch unit type.path)
  missing : ∀ unit type, unit ∉ rs.units → r.get type unit = .error (.unitNotFound unit)
  answered : answers.length = rs.length ∧ ∀ (before later : Registrations) (unit : String) (h : Handle),
    rs = before ++ (unit, h) :: later → answers[before.length]? = some (decide (unit ∈ before.units))
  /-- A program that makes the registrations warns of each that is told to replace another, and tells nothing else. -/
  warned : ∀ events, Program.registerAll ⟨.empty, events⟩ rs = ⟨r, events ++ rs.warnings answers⟩
  increasing : r.units.Pairwise fun a b => utf8Bytes a < utf8Bytes b
  mem_units : ∀ unit, unit ∈ r.units ↔ unit ∈ rs.units
  size : r.size = r.units.length

/-- After any registrations, the last one under a name answers for that name. -/
theorem registerAll_kept (rs : Registrations) : rs.Kept (Registry.empty.registerAll rs) (Registry.empty.answers rs) where
  handed unit h hends := by rw [Registry.get_of_ends hends, if_pos rfl]
  refused unit h type hends hne := by rw [Registry.get_of_ends hends, if_neg hne]
  missing unit type hunit := Registry.get_of_not_mem hunit type
  answered := by
    refine ⟨Registry.length_answers .empty rs, ?_⟩
    rintro before later unit h rfl
    have hlength := Registry.length_answers .empty before
    rw [Registry.answers_append, List.getElem?_append_right (Nat.le_of_eq hlength), hlength, Nat.sub_self,
      ← Registry.contains_registerAll]
    rfl
  warned events := Program.registerAll_eq ⟨.empty, events⟩ rs
  increasing := ((Registry.empty.registerAll rs).handles.keys_pairwise).imp utf8Bytes_lt_iff.mpr
  mem_units unit := Registry.mem_units_registerAll_iff
  size := (List.length_map _).symm

end HostBinder

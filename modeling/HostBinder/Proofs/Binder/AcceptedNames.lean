import HostBinder.Proofs.Binder.Emission
import HostBinder.Proofs.Code.Names

set_option autoImplicit false

/-!
The check of names beside the reading of names as code. Each has a notion of identifier of its own, and on names that
the check accepts they differ at reserved words only: a field that is named by one is written raw, or not at all if it
is one of the few that cannot be raw, and a host that is named by one gets no unit.
-/

namespace HostBinder

open Code

/-- What comes of a field's name. -/
structure FieldNameWritten (field : String) : Prop where
  refused_iff : fieldIdent? field = .ok none ↔ field ∈ ["self", "Self", "super", "crate", "_"]
  written : field ∉ ["self", "Self", "super", "crate", "_"] → ∃ i, fieldIdent? field = .ok (some i) ∧ i.Spells field

/-- What comes of a host whose name decides whether there is a unit. -/
structure HostGroup.MadeUnlessReserved (g : HostGroup) (conforms : FieldDecl → Bool) (policy : InvalidFieldPolicy)
    (roots : CrateRoots) : Prop where
  refused_iff : (∃ reports, g.emit conforms policy roots = .ok ⟨none, reports⟩) ↔ g.host ∈ reservedWords
  refused : g.host ∈ reservedWords → g.emit conforms policy roots = .ok ⟨none, [.unnameable g.path]⟩
  made : g.host ∉ reservedWords → (∀ d ∈ g.declarations, fieldNameFault? d.field = none) →
    ∃ u reports, g.emit conforms policy roots = .ok ⟨some u, reports⟩ ∧ u.host = g.host ∧ u.name = binderName g.host

theorem mem_unrawable_iff {name : String} : name ∈ unrawable ↔ name ∈ ["self", "Self", "super", "crate", "_"] := by
  simp only [unrawable, List.mem_cons, List.not_mem_nil, or_false]
  tauto

theorem fieldNameWritten_of_isIdentifier {field : String} (h : IsIdentifier field) : FieldNameWritten field := by
  have htext := isIdentText_of_isIdentifier h
  have hread := fieldIdent?_of_isIdentText htext
  simp only [mem_unrawable_iff] at hread
  constructor
  · rw [hread]
    split <;> simp_all
  · intro hrawable
    rw [if_neg hrawable] at hread
    exact ⟨_, hread, spells_of_fieldIdent? h hread⟩

namespace HostGroup

variable {g : HostGroup} {conforms : FieldDecl → Bool} {policy : InvalidFieldPolicy} {roots : CrateRoots}

theorem isNameable_iff_of_isIdentifier (hhost : IsIdentifier g.host) (hpackage : (pathOfText? g.package).isSome) :
    g.isNameable = true ↔ g.host ∉ reservedWords := by
  rw [isNameable, nameOfText?_of_isIdentText (isIdentText_of_isIdentifier hhost), hpackage]
  by_cases hreserved : g.host ∈ reservedWords <;> simp [hreserved]

theorem exists_refused_iff (hup : ¬g.GivenUp conforms policy) :
    (∃ reports, g.emit conforms policy roots = .ok ⟨none, reports⟩) ↔ g.isNameable = false := by
  constructor
  · rintro ⟨reports, he⟩
    cases emit_eq_ok_iff.mp he with
    | aborted hyes => exact absurd hyes hup
    | unnameable _ hname => exact hname
  · exact fun hname => ⟨_, emit_eq_ok_iff.mpr (.unnameable hup hname)⟩

theorem exists_unit (hup : ¬g.GivenUp conforms policy) (hname : g.isNameable = true)
    (hfields : ∀ d ∈ g.declarations, ∃ i, fieldIdent? d.field = .ok i) :
    ∃ u reports, g.emit conforms policy roots = .ok ⟨some u, reports⟩ ∧ u.host = g.host ∧
      u.name = binderName g.host := by
  cases he : g.emit conforms policy roots with
  | error err =>
    obtain ⟨_, _, d, hd, _, hident⟩ := emit_eq_error he
    obtain ⟨i, hi⟩ := hfields d hd
    rw [hi] at hident
    cases hident
  | ok e =>
    cases emit_eq_ok_iff.mp he with
    | aborted hyes => exact absurd hyes hup
    | unnameable _ hno => simp [hname] at hno
    | made => exact ⟨_, _, rfl, rfl, rfl⟩

theorem madeUnlessReserved_of_isIdentifier (hhost : IsIdentifier g.host) (hpackage : (pathOfText? g.package).isSome)
    (hup : ¬g.GivenUp conforms policy) : g.MadeUnlessReserved conforms policy roots := by
  have hname := isNameable_iff_of_isIdentifier hhost hpackage
  have hreserved : g.isNameable = false ↔ g.host ∈ reservedWords := by
    rw [Bool.eq_false_iff, Ne, hname, not_not]
  refine ⟨(exists_refused_iff hup).trans hreserved, fun h => ?_, fun h hfields => ?_⟩
  · exact emit_eq_ok_iff.mpr (.unnameable hup (hreserved.mpr h))
  · refine exists_unit hup (hname.mpr h) fun d hd => ?_
    exact exists_fieldIdent?_of_isIdentifier (fieldNameFault?_eq_none_iff.mp (hfields d hd))

end HostGroup

/-- A name that the check accepts is written as it is, with reserved words as the only exceptions. -/
theorem accepted_names_written :
    (∀ field, fieldNameFault? field = none → FieldNameWritten field) ∧
      ∀ (g : HostGroup) (conforms : FieldDecl → Bool) (policy : InvalidFieldPolicy) (roots : CrateRoots) (limit : Nat),
        nameFault? (some limit) g.host = none → (pathOfText? g.package).isSome → ¬g.GivenUp conforms policy →
          g.MadeUnlessReserved conforms policy roots := by
  constructor
  · exact fun field hfield => fieldNameWritten_of_isIdentifier (fieldNameFault?_eq_none_iff.mp hfield)
  · intro g conforms policy roots limit hhost hpackage hup
    exact HostGroup.madeUnlessReserved_of_isIdentifier (nameFault?_eq_none_iff.mp hhost).1 hpackage hup

theorem accepted_reserved_written :
    let g : HostGroup := ⟨"app", "Self", [⟨"app", "Self", "type", "w::Label", 1⟩]⟩
    fieldNameFault? "type" = none ∧ FieldNameWritten "type" ∧ fieldIdent? "type" = .ok (some ⟨"type", true⟩) ∧
      fieldNameFault? "crate" = none ∧ FieldNameWritten "crate" ∧ fieldIdent? "crate" = .ok none ∧
        nameFault? (some 64) g.host = none ∧ (pathOfText? g.package).isSome ∧ ¬g.GivenUp (fun _ => true) .abort ∧
          g.MadeUnlessReserved (fun _ => true) .abort (.resolve .none) ∧ g.host ∈ reservedWords := by
  intro g
  have htype : fieldNameFault? "type" = none := by decide +kernel
  have hcrate : fieldNameFault? "crate" = none := by decide +kernel
  have hhost : nameFault? (some 64) g.host = none := by decide +kernel
  have hpackage : (pathOfText? g.package).isSome := by decide +kernel
  have hup : ¬g.GivenUp (fun _ => true) .abort := by simp [HostGroup.GivenUp]
  obtain ⟨hfields, hhosts⟩ := accepted_names_written
  exact ⟨htype, hfields _ htype, by decide +kernel, hcrate, hfields _ hcrate, by decide +kernel, hhost, hpackage, hup,
    hhosts g _ _ _ 64 hhost hpackage hup, by decide +kernel⟩

end HostBinder

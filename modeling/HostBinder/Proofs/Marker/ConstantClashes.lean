import HostBinder.Proofs.Marker.Outcomes

set_option autoImplicit false

/-!
Marked types that stand in one module, and the constants that are declared beside them. The name of a constant keeps the
letters of the type's name, but neither their case nor all of its underscores, so that two types can have constants of
one name. How far a name can be told from that of its constant depends on how it is put together of words.
-/

namespace HostBinder.Marker

open Code HostBinder.Text

/-- Code that ends with a constant of the given name and its registration. -/
def Registers (marker : Marker) (roots : CrateRoots) (code : Tokens) (constant : Ident) : Prop :=
  ∃ before node, code = before ++ registration marker roots constant node

theorem Registers.unique {marker : Marker} {roots : CrateRoots} {code : Tokens} {c d : Ident}
    (hc : Registers marker roots code c) (hd : Registers marker roots code d) : c = d := by
  obtain ⟨before, node, rfl⟩ := hc
  obtain ⟨before', node', heq⟩ := hd
  have hlast := congrArg List.getLast? heq
  simpa [registration, braces, parens, List.getLast?_cons] using hlast

theorem registers_iff_of_expansion {marker : Marker} {roots : CrateRoots} {type : Ident} {written fields code : Tokens}
    (h : expansion marker roots type written fields = .ok code) :
    ∃ constant, constantName marker type = .ok constant ∧ ∀ c, Registers marker roots code c ↔ c = constant := by
  rw [expansion, Attempt.bind_eq_ok_iff] at h
  obtain ⟨constant, hconstant, h⟩ := h
  rw [Attempt.pure_eq_ok_iff] at h
  have hregisters : Registers marker roots code constant := ⟨_, _, h.symm⟩
  refine ⟨constant, Attempt.mapError_eq_ok_iff.mp hconstant, fun c => ⟨fun hc => hc.unique hregisters, ?_⟩⟩
  rintro rfl
  exact hregisters

theorem registers_iff {marker : Marker} {roots : CrateRoots} {args item code : Tokens}
    (h : marker.expand roots args item = .ok code) :
    ∃ i constant, markedItem item = .ok i ∧ i.name.raw = false ∧ constantName marker i.name = .ok constant ∧
      ∀ c, Registers marker roots code c ↔ c = constant := by
  obtain ⟨i, _, _, hpasses, hexpansion⟩ := exists_passes h
  obtain ⟨constant, hconstant, hregisters⟩ := registers_iff_of_expansion hexpansion
  exact ⟨i, constant, hpasses.declared, raw_eq_false_of_constantName hconstant, hconstant, hregisters⟩

structure TellsApart (c d : Ident) (name other : String) : Prop where
  converted : c = d ↔ upperSnakeCase name = upperSnakeCase other
  letters : c = d → letters name.toList = letters other.toList
  /-- Where underscores separate words, names share a constant exactly if they have the same words up to case. -/
  words : UnderscoresSeparate name.toList → UnderscoresSeparate other.toList →
    (c = d ↔ upperWords name.toList = upperWords other.toList)
  camelCase : IsCamelCase name.toList → IsCamelCase other.toList → c = d → name = other

theorem tellsApart {marker : Marker} {type other c d : Ident} (hc : constantName marker type = .ok c)
    (hd : constantName marker other = .ok d) : TellsApart c d type.name other.name := by
  have htext : ∀ {i constant : Ident}, constantName marker i = .ok constant → i.text = i.name := by
    intro i constant hconstant
    simp [Ident.text, raw_eq_false_of_constantName hconstant]
  have hconverted := constantName_eq_iff hc hd
  rw [htext hc, htext hd] at hconverted
  exact {
    converted := hconverted
    letters := fun heq => by
      rw [← filter_upperSnakeCase, ← filter_upperSnakeCase, hconverted.mp heq]
    words := fun hname hother => hconverted.trans (upperSnakeCase_eq_iff hname hother)
    camelCase := fun hname hother heq => hname.eq_of_upperSnakeCase hother (hconverted.mp heq) }

/-- Two types with one marker, both expanded: each has its one constant, and how far these tell the types apart. -/
theorem expand_tellsApart (marker : Marker) (roots : CrateRoots) {args item code args' item' code' : Tokens}
    (h : marker.expand roots args item = .ok code) (h' : marker.expand roots args' item' = .ok code') :
    ∃ i i' c c', markedItem item = .ok i ∧ markedItem item' = .ok i' ∧ i.name.raw = false ∧ i'.name.raw = false ∧
      (∀ d, Registers marker roots code d ↔ d = c) ∧ (∀ d, Registers marker roots code' d ↔ d = c') ∧
      TellsApart c c' i.name.name i'.name.name := by
  obtain ⟨i, c, hi, hraw, hc, hregisters⟩ := registers_iff h
  obtain ⟨i', c', hi', hraw', hc', hregisters'⟩ := registers_iff h'
  exact ⟨i, i', c, c', hi, hi', hraw, hraw', hregisters, hregisters', tellsApart hc hc'⟩

def nameOf? (item : Tokens) : Option Ident := (markedItem item).toOption.map Item.name

theorem name_of_nameOf? {item : Tokens} {i : Item} {name : Ident} (hname : nameOf? item = some name)
    (hi : markedItem item = .ok i) : i.name = name := by
  rw [nameOf?, hi] at hname
  exact Option.some.inj hname

def unitItem (name : String) : Tokens := [word "struct", word name, .mark ';' false]

theorem exists_expand_eq_ok (marker : Marker) (roots : CrateRoots) (args item : Tokens)
    (h : (marker.expand roots args item).isOk = true) : ∃ code, marker.expand roots args item = .ok code := by
  cases hcode : marker.expand roots args item with
  | error e =>
    rw [hcode] at h
    cases h
  | ok code => exact ⟨code, rfl⟩

theorem expand_tellsApart_views :
    ∃ code code', Marker.expand .component (.resolve .none) [] (unitItem "HtmlView") = .ok code ∧
      Marker.expand .component (.resolve .none) [] (unitItem "View2D") = .ok code' ∧
      ∃ c c', Registers .component (.resolve .none) code c ∧ Registers .component (.resolve .none) code' c' ∧
        c ≠ c' := by
  obtain ⟨code, hcode⟩ := exists_expand_eq_ok .component (.resolve .none) [] (unitItem "HtmlView") (by decide +kernel)
  obtain ⟨code', hcode'⟩ := exists_expand_eq_ok .component (.resolve .none) [] (unitItem "View2D") (by decide +kernel)
  obtain ⟨i, i', c, c', hi, hi', _, _, hregisters, hregisters', htells⟩ :=
    expand_tellsApart .component (.resolve .none) hcode hcode'
  have hname : nameOf? (unitItem "HtmlView") = some ⟨"HtmlView", false⟩ := by decide +kernel
  have hname' : nameOf? (unitItem "View2D") = some ⟨"View2D", false⟩ := by decide +kernel
  rw [name_of_nameOf? hname hi, name_of_nameOf? hname' hi'] at htells
  refine ⟨code, code', hcode, hcode', c, c', (hregisters c).mpr rfl, (hregisters' c').mpr rfl, fun heq => ?_⟩
  have hsame := htells.camelCase ⟨by decide, by decide +kernel⟩ ⟨by decide, by decide +kernel⟩ heq
  exact absurd hsame (by decide)

/-- Two types of different names that are legal on their own, and have one constant. -/
theorem html_constants_clash :
    ∃ code code' c, Marker.expand .component (.resolve .none) [] (unitItem "HTMLView") = .ok code ∧
      Marker.expand .component (.resolve .none) [] (unitItem "HtmlView") = .ok code' ∧
      nameOf? (unitItem "HTMLView") ≠ nameOf? (unitItem "HtmlView") ∧
      Registers .component (.resolve .none) code c ∧ Registers .component (.resolve .none) code' c := by
  obtain ⟨code, hcode⟩ := exists_expand_eq_ok .component (.resolve .none) [] (unitItem "HTMLView") (by decide +kernel)
  obtain ⟨code', hcode'⟩ := exists_expand_eq_ok .component (.resolve .none) [] (unitItem "HtmlView") (by decide +kernel)
  have hname : nameOf? (unitItem "HTMLView") = some ⟨"HTMLView", false⟩ := by decide +kernel
  have hname' : nameOf? (unitItem "HtmlView") = some ⟨"HtmlView", false⟩ := by decide +kernel
  obtain ⟨i, c, hi, _, hc, hregisters⟩ := registers_iff hcode
  obtain ⟨i', c', hi', _, hc', hregisters'⟩ := registers_iff hcode'
  rw [name_of_nameOf? hname hi] at hc
  rw [name_of_nameOf? hname' hi'] at hc'
  have hsame : c = c' := (constantName_eq_iff hc hc').mpr (by decide +kernel)
  refine ⟨code, code', c, hcode, hcode', by rw [hname, hname']; decide, (hregisters c).mpr rfl, ?_⟩
  exact (hregisters' c).mpr hsame

end HostBinder.Marker

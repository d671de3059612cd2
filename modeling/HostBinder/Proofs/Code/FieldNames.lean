import HostBinder.Code.Grammar
import HostBinder.Proofs.Code.PathTokens

set_option autoImplicit false

namespace HostBinder.Code

def Ident.NamesField (i : Ident) : Prop := i.isName = true ∨ i = ⟨"_", false⟩

namespace Parser

variable {α β : Type}

/-- Whether all that a parser comes to has a property. -/
def Yields (p : Parser α) (P : α → Prop) : Prop := ∀ c a c', p c = .ok (a, c') → P a

namespace Yields

variable {p : Parser α} {P : α → Prop} {Q : β → Prop} {f : α → Parser β}

theorem pure {a : α} (h : P a) : (Pure.pure a : Parser α).Yields P := by
  intro c a' c' hp
  rw [← (pure_eq_ok_iff.mp hp).1]
  exact h

theorem bind (hp : p.Yields P) (hf : ∀ a, P a → (f a).Yields Q) : (p >>= f).Yields Q := by
  intro c b c' h
  obtain ⟨a, c₁, ha, hb⟩ := bind_eq_ok_iff.mp h
  exact hf a (hp c a c₁ ha) c₁ b c' hb

theorem after (hf : ∀ a, (f a).Yields Q) : (p >>= f).Yields Q :=
  bind (P := fun _ => True) (fun _ _ _ _ => trivial) fun a _ => hf a

theorem ite {c : Prop} [Decidable c] {q : Parser α} (hp : p.Yields P) (hq : q.Yields P) :
    (if c then p else q).Yields P := by
  split
  · exact hp
  · exact hq

theorem expected {what : String} : (Parser.expected what : Parser α).Yields P := by
  intro c a c' h
  cases h

theorem inside {d : Delimiter} (hp : p.Yields P) : (Parser.inside d p).Yields P := by
  unfold Parser.inside
  refine .after fun ts => ?_
  split
  · exact .ite (.after fun c => .after fun _ => .bind hp fun a ha => .after fun _ => .pure ha) .expected
  · exact .expected

theorem list {stop : Tokens → Bool} {separator : String} (hp : p.Yields P) :
    (Parser.list stop separator p).Yields fun l => ∀ a ∈ l.items, P a := by
  have hnil : ∀ a ∈ ([] : List α), P a := fun a ha => absurd ha List.not_mem_nil
  have hloop : ∀ fuel, (listLoop stop separator p fuel).Yields fun l => ∀ a ∈ l.items, P a := by
    intro fuel
    induction fuel with
    | zero =>
      intro c l c' h
      cases h
    | succ fuel ih =>
      unfold listLoop
      refine .after fun ts => .ite (.pure hnil) (.bind hp fun a ha => .after fun ts => ?_)
      refine .ite (.pure (List.forall_mem_cons.mpr ⟨ha, hnil⟩)) (.after fun _ => .bind ih fun more hmore => ?_)
      exact .pure (List.forall_mem_cons.mpr ⟨ha, hmore⟩)
  exact .after fun ts => hloop _

end Yields

theorem namedField_yields (g : Grammar) (nested : Parser Tokens) :
    (namedField g nested).Yields fun f => f.name.NamesField := by
  have hrest : ∀ (attributes : List Attribute) (visibility : Tokens) (unnamed : Bool) (i : Ident), Yields (do
      let _ ← mark ":"
      return (⟨attributes, visibility, i, ← fieldType g unnamed nested⟩ : Field)) fun f => f.name = i :=
    fun _ _ _ _ => .after fun _ => .after fun _ => .pure rfl
  intro c f c' h
  unfold namedField at h
  obtain ⟨attributes, c₁, _, h⟩ := bind_eq_ok_iff.mp h
  obtain ⟨visibility, c₂, _, h⟩ := bind_eq_ok_iff.mp h
  rw [rest_bind] at h
  cases hunnamed : startsWord "_" c₂.rest with
  | true =>
    rw [hunnamed, if_pos rfl] at h
    obtain ⟨i, c₃, hi, h⟩ := bind_eq_ok_iff.mp h
    rw [anyIdent_eq_ok hi] at hunnamed
    rw [hrest _ _ _ i c₃ f c' h]
    exact .inr (eq_of_startsWord hunnamed)
  | false =>
    rw [hunnamed, if_neg Bool.false_ne_true] at h
    obtain ⟨i, c₃, hi, h⟩ := bind_eq_ok_iff.mp h
    rw [hrest _ _ _ i c₃ f c' h]
    exact .inl (name_eq_ok hi).2

theorem namedFields_yields (g : Grammar) (depth : Nat) :
    (namedFields g depth).Yields fun fields => ∀ f ∈ fields.items, f.name.NamesField := by
  cases depth with
  | zero =>
    intro c fields c' h
    cases h
  | succ depth => exact .list (namedField_yields g _)

end Parser

def Fields.AreNamed : Fields → Prop
  | .named fields => ∀ f ∈ fields.items, f.name.NamesField
  | _ => True

def ItemKind.HasNamedFields : ItemKind → Prop
  | .struct fields => fields.AreNamed
  | _ => True

namespace Parser

theorem structRest_yields (g : Grammar) (depth : Nat) : (structRest g depth).Yields fun r => r.2.AreNamed := by
  unfold structRest
  refine .after fun _ => .after fun bounds => .after fun ts => ?_
  refine .ite ?_ (.ite ?_ (.ite ?_ .expected))
  · exact .after fun _ => .after fun _ => .after fun _ => .pure trivial
  · exact .bind (.inside (namedFields_yields g depth)) fun fields hfields => .pure hfields
  · exact .after fun _ => .pure trivial

theorem itemRest_yields (g : Grammar) (depth : Nat) (w : String) :
    (itemRest g depth w).Yields fun r => r.2.HasNamedFields := by
  unfold itemRest
  refine .ite ?_ ?_
  · exact .bind (structRest_yields g depth) fun r hr => .pure hr
  · refine .after fun bounds => .ite ?_ ?_
    · exact .after fun _ => .pure trivial
    · exact .after fun _ => .pure trivial

theorem item_yields (g : Grammar) (depth : Nat) : (item g depth).Yields fun i => i.kind.HasNamedFields := by
  have hrest : ∀ (attributes : List Attribute) (visibility : Tokens) (w : String), Yields (do
      let _ ← anyIdent
      let name ← name
      let parameters ← genericParameters g
      let r ← itemRest g depth w
      return (⟨attributes, visibility, name, parameters, r.1, r.2⟩ : Item)) fun i => i.kind.HasNamedFields :=
    fun attributes visibility w => .after fun _ => .after fun name => .after fun parameters =>
      .bind (itemRest_yields g depth w) fun r hr => .pure hr
  unfold item
  refine .after fun attributes => .after fun visibility => .after fun _ => .after fun _ => .after fun _ => ?_
  dsimp only
  refine .ite (.after (hrest attributes visibility)) (.ite (.after (hrest attributes visibility)) ?_)
  exact .ite (.after (hrest attributes visibility)) (.after (hrest attributes visibility))

end Parser

theorem hasNamedFields_of_itemOf {ts : Tokens} {i : Item} (h : itemOf ts = .ok i) : i.kind.HasNamedFields := by
  obtain ⟨c', hitem, _⟩ := Parser.all_eq_ok h
  exact Parser.item_yields _ _ _ _ _ hitem

end HostBinder.Code

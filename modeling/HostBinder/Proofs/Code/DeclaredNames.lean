import HostBinder.Proofs.Code.PathTokens

set_option autoImplicit false

namespace HostBinder.Code

namespace Parser

variable {α β : Type}

/-- Whether a parser leaves an end of the tokens that it starts at. -/
def Advances (p : Parser α) : Prop := ∀ c a c', p c = .ok (a, c') → c'.rest <:+ c.rest

theorem suffix_of_afterMarks? {cs : List Char} {ts ts' : Tokens} (h : afterMarks? cs ts = some ts') : ts' <:+ ts := by
  induction cs generalizing ts with
  | nil =>
    cases h
    exact List.suffix_rfl
  | cons c cs ih =>
    unfold afterMarks? at h
    split at h
    · cases h
      exact List.suffix_rfl
    · split at h
      · cases h
        exact List.suffix_cons _ _
      · cases h
    · rename_i hcs
      obtain ⟨rfl, rfl⟩ := List.cons.inj hcs
      split at h
      · exact (ih h).trans (List.suffix_cons _ _)
      · cases h
    · cases h

namespace Advances

variable {p : Parser α} {f : α → Parser β}

theorem pure {a : α} : (Pure.pure a : Parser α).Advances := by
  intro c a' c' h
  obtain ⟨_, rfl⟩ := pure_eq_ok_iff.mp h
  exact List.suffix_rfl

theorem bind (hp : p.Advances) (hf : ∀ a, (f a).Advances) : (p >>= f).Advances := by
  intro c b c' h
  obtain ⟨a, c₁, ha, hb⟩ := bind_eq_ok_iff.mp h
  exact (hf a c₁ b c' hb).trans (hp c a c₁ ha)

theorem rest : Parser.rest.Advances := by
  intro c ts c' h
  cases h
  exact List.suffix_rfl

theorem ite {c : Prop} [Decidable c] {q : Parser α} (hp : p.Advances) (hq : q.Advances) :
    (if c then p else q).Advances := by
  split
  · exact hp
  · exact hq

theorem expected {what : String} : (Parser.expected what : Parser α).Advances := by
  intro c a c' h
  cases h

theorem mark {s : String} : (Parser.mark s).Advances := by
  intro c ts c' h
  exact suffix_of_afterMarks? (mark_eq_ok h).1

theorem anyIdent : Parser.anyIdent.Advances := by
  intro c i c' h
  rw [anyIdent_eq_ok h]
  exact List.suffix_cons _ _

theorem keyword {w : String} : (Parser.keyword w).Advances := by
  intro c ts c' h
  unfold Parser.keyword at h
  rw [rest_bind] at h
  cases hrest : c.rest with
  | nil =>
    rw [hrest] at h
    cases h
  | cons t after =>
    rw [hrest] at h
    cases t with
    | ident i =>
      dsimp only at h
      split at h
      · cases h
        exact List.suffix_cons _ _
      · cases h
    | mark => cases h
    | literal => cases h
    | group => cases h

theorem inside {d : Delimiter} : (Parser.inside d p).Advances := by
  intro c a c' h
  unfold Parser.inside at h
  rw [rest_bind] at h
  cases hrest : c.rest with
  | nil =>
    rw [hrest] at h
    cases h
  | cons t after =>
    rw [hrest] at h
    cases t with
    | group d' body =>
      dsimp only at h
      split at h
      · obtain ⟨c₁, c₂, _, h⟩ := bind_eq_ok_iff.mp h
        obtain ⟨_, c₃, _, h⟩ := bind_eq_ok_iff.mp h
        obtain ⟨a', c₄, _, h⟩ := bind_eq_ok_iff.mp h
        cases h
        exact List.suffix_cons _ _
      · cases h
    | ident => cases h
    | mark => cases h
    | literal => cases h

theorem group {d : Delimiter} {q : Parser Tokens} : (Parser.group d q).Advances := .bind .inside fun _ => .pure

theorem many {stop : Tokens → Bool} (hp : p.Advances) : (Parser.many stop p).Advances := by
  have hloop : ∀ fuel, (manyLoop stop p fuel).Advances := by
    intro fuel
    induction fuel with
    | zero =>
      intro c as c' h
      cases h
    | succ fuel ih => exact .bind .rest fun ts => .ite .pure (.bind hp fun a => .bind ih fun _ => .pure)
  exact .bind .rest fun ts => hloop _

theorem outerAttributes (g : Grammar) : (Parser.outerAttributes g).Advances :=
  .many (.bind .mark fun _ => .inside)

theorem restriction? : Parser.restriction?.Advances := by
  intro c ts c' h
  unfold Parser.restriction? at h
  simp only at h
  split at h
  · split at h
    · split at h
      · rename_i hgroup
        cases h
        exact group _ _ _ hgroup
      · cases h
        exact List.suffix_rfl
    · split at h
      · exact (bind group fun _ => .pure) _ _ _ h
      · cases h
        exact List.suffix_rfl
  · cases h
    exact List.suffix_rfl

theorem visibility : Parser.visibility.Advances :=
  .bind .rest fun _ => .ite .pure (.bind .keyword fun _ => .bind restriction? fun _ => .pure)

end Advances

/-- Whether a parser of declarations takes the name from the tokens that it starts at. -/
def FindsName (p : Parser Item) : Prop := ∀ c i c', p c = .ok (i, c') → .ident i.name ∈ c.rest

namespace FindsName

theorem after {p : Parser α} {f : α → Parser Item} (hp : p.Advances) (hf : ∀ a, (f a).FindsName) :
    (p >>= f).FindsName := by
  intro c i c' h
  obtain ⟨a, c₁, ha, hi⟩ := bind_eq_ok_iff.mp h
  exact (hp c a c₁ ha).subset (hf a c₁ i c' hi)

theorem ite {c : Prop} [Decidable c] {p q : Parser Item} (hp : p.FindsName) (hq : q.FindsName) :
    (if c then p else q).FindsName := by
  split
  · exact hp
  · exact hq

end FindsName

theorem item_findsName (g : Grammar) (depth : Nat) : (item g depth).FindsName := by
  have hrest : ∀ (attributes : List Attribute) (visibility : Tokens) (w : String), FindsName (do
      let _ ← anyIdent
      let name ← name
      let parameters ← genericParameters g
      let r ← itemRest g depth w
      return (⟨attributes, visibility, name, parameters, r.1, r.2⟩ : Item)) := by
    intro attributes visibility w
    refine .after .anyIdent fun _ => ?_
    intro c i c' h
    obtain ⟨name, c₁, hname, h⟩ := bind_eq_ok_iff.mp h
    obtain ⟨_, c₂, _, h⟩ := bind_eq_ok_iff.mp h
    obtain ⟨_, c₃, _, h⟩ := bind_eq_ok_iff.mp h
    obtain ⟨rfl, _⟩ := pure_eq_ok_iff.mp h
    rw [(name_eq_ok hname).1]
    exact List.mem_cons_self
  unfold item
  refine .after (.outerAttributes g) fun attributes => .after .visibility fun visibility => ?_
  refine .after .rest fun _ => .after .rest fun _ => .after .rest fun _ => ?_
  dsimp only
  refine .ite (.after .pure (hrest attributes visibility)) (.ite (.after .pure (hrest attributes visibility)) ?_)
  exact .ite (.after .pure (hrest attributes visibility)) (.after .expected (hrest attributes visibility))

end Parser

theorem name_mem_of_itemOf {ts : Tokens} {i : Item} (h : itemOf ts = .ok i) : .ident i.name ∈ ts := by
  obtain ⟨c', hitem, _⟩ := Parser.all_eq_ok h
  exact Parser.item_findsName _ _ _ _ _ hitem

end HostBinder.Code

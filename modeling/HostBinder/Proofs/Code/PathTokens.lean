import HostBinder.Code.Grammar
import HostBinder.Proofs.Attempt

set_option autoImplicit false

namespace HostBinder.Code

def segmentWords : List String := ["super", "self", "crate", "try", "Self"]

def Ident.IsSegment (i : Ident) : Prop := i.isName = true ∨ (i.raw = false ∧ i.name ∈ segmentWords)

/-- The tokens of a path without arguments and without a separator in front. -/
inductive PathTokens : Tokens → Prop
  | single {i : Ident} (hsegment : i.IsSegment) : PathTokens [.ident i]
  | cons {i : Ident} {joint : Bool} {ts : Tokens} (hsegment : i.IsSegment) (hrest : PathTokens ts) :
      PathTokens (.ident i :: .mark ':' true :: .mark ':' joint :: ts)

namespace Parser

variable {α β : Type} {c c' : Cursor} {ts : Tokens} {g : Grammar}

theorem bind_eq_ok_iff {x : Parser α} {f : α → Parser β} {r : β × Cursor} :
    (x >>= f) c = .ok r ↔ ∃ a c', x c = .ok (a, c') ∧ f a c' = .ok r := by
  have hbind : (x >>= f) c = x c >>= fun p => f p.1 p.2 := rfl
  rw [hbind, Attempt.bind_eq_ok_iff, Prod.exists]

@[simp] theorem rest_bind {f : Tokens → Parser α} : (rest >>= f) c = f c.rest c := rfl

theorem pure_eq_ok_iff {a b : α} : (pure a : Parser α) c = .ok (b, c') ↔ a = b ∧ c = c' := by
  have hpure : (pure a : Parser α) c = .ok (a, c) := rfl
  rw [hpure, Except.ok.injEq, Prod.mk.injEq]

theorem afterMarks?_single_eq_some {ch : Char} {ts' : Tokens} (h : afterMarks? [ch] ts = some ts') :
    ∃ joint, ts = .mark ch joint :: ts' := by
  cases ts with
  | nil => cases h
  | cons t ts =>
    cases t with
    | mark c joint =>
      by_cases hc : ch = c
      · rw [afterMarks?, if_pos hc] at h
        cases h
        exact ⟨joint, by rw [hc]⟩
      · rw [afterMarks?, if_neg hc] at h
        cases h
    | ident => cases h
    | literal => cases h
    | group => cases h

theorem afterMarks?_colons_eq_some {ts' : Tokens} (h : afterMarks? "::".toList ts = some ts') :
    ∃ joint, ts = .mark ':' true :: .mark ':' joint :: ts' := by
  cases ts with
  | nil => cases h
  | cons t ts =>
    cases t with
    | mark c joint =>
      cases joint with
      | true =>
        have hstep : (if ':' = c then afterMarks? [':'] ts else none) = some ts' := h
        by_cases hc : ':' = c
        · rw [if_pos hc] at hstep
          obtain ⟨joint, rfl⟩ := afterMarks?_single_eq_some hstep
          exact ⟨joint, by rw [hc]⟩
        · rw [if_neg hc] at hstep
          cases hstep
      | false => cases h
    | ident => cases h
    | literal => cases h
    | group => cases h

theorem mark_eq_ok {s : String} {t : Tokens} (h : mark s c = .ok (t, c')) :
    afterMarks? s.toList c.rest = some c'.rest ∧ t = op s := by
  unfold mark at h
  rw [rest_bind] at h
  cases hm : afterMarks? s.toList c.rest with
  | none =>
    rw [hm] at h
    cases h
  | some ts =>
    rw [hm] at h
    cases h
    exact ⟨rfl, rfl⟩

theorem anyIdent_eq_ok {i : Ident} (h : anyIdent c = .ok (i, c')) : c.rest = .ident i :: c'.rest := by
  unfold anyIdent at h
  rw [rest_bind] at h
  cases hr : c.rest with
  | nil =>
    rw [hr] at h
    cases h
  | cons t ts =>
    rw [hr] at h
    cases t with
    | ident =>
      cases h
      rfl
    | mark => cases h
    | literal => cases h
    | group => cases h

theorem name_eq_ok {i : Ident} (h : name c = .ok (i, c')) : c.rest = .ident i :: c'.rest ∧ i.isName = true := by
  unfold name at h
  rw [rest_bind] at h
  cases hr : c.rest with
  | nil =>
    rw [hr] at h
    cases h
  | cons t ts =>
    rw [hr] at h
    cases t with
    | ident i' =>
      cases hname : i'.isName with
      | true =>
        simp only [hname, if_true] at h
        cases h
        exact ⟨rfl, hname⟩
      | false =>
        simp only [hname] at h
        cases h
    | mark => cases h
    | literal => cases h
    | group => cases h

theorem eq_of_startsWord {w : String} {i : Ident} (h : startsWord w (.ident i :: ts) = true) : i = ⟨w, false⟩ :=
  of_decide_eq_true h

theorem isSegment_of_startsWordIn {ws : List String} {i : Ident} (hws : ∀ w ∈ ws, w ∈ segmentWords)
    (h : startsWordIn ws (.ident i :: ts) = true) : i.IsSegment := by
  obtain ⟨w, hw, hstarts⟩ := List.any_eq_true.mp h
  rw [eq_of_startsWord hstarts]
  exact .inr ⟨rfl, hws w hw⟩

theorem eq_of_no_arguments {i : Ident} {s : Segment} (hs : s.arguments = none)
    (h : (if startsArgs false c.rest = true then
        genericArgs g >>= fun a => (pure ⟨i, some a⟩ : Parser Segment) else pure ⟨i, none⟩) c = .ok (s, c')) :
    s.name = i ∧ c = c' := by
  cases hargs : startsArgs false c.rest with
  | true =>
    rw [if_pos hargs] at h
    obtain ⟨a, c₁, _, h⟩ := bind_eq_ok_iff.mp h
    obtain ⟨rfl, rfl⟩ := pure_eq_ok_iff.mp h
    cases hs
  | false =>
    rw [if_neg (by simp [hargs])] at h
    obtain ⟨rfl, rfl⟩ := pure_eq_ok_iff.mp h
    exact ⟨rfl, rfl⟩

theorem segment_eq_ok {s : Segment} (h : segment g false c = .ok (s, c')) (hs : s.arguments = none) :
    c.rest = .ident s.name :: c'.rest ∧ s.name.IsSegment := by
  unfold segment at h
  rw [rest_bind] at h
  cases hword : startsWordIn ["super", "self", "crate", "try"] c.rest with
  | true =>
    simp only [hword, if_true] at h
    obtain ⟨i, c₁, hi, h⟩ := bind_eq_ok_iff.mp h
    obtain ⟨rfl, rfl⟩ := pure_eq_ok_iff.mp h
    have hrest := anyIdent_eq_ok hi
    rw [hrest] at hword
    exact ⟨hrest, isSegment_of_startsWordIn (by decide) hword⟩
  | false =>
    simp only [hword, Bool.false_eq_true, if_false, rest_bind] at h
    cases hself : startsWord "Self" c.rest with
    | true =>
      simp only [hself, if_true] at h
      obtain ⟨i, c₁, hi, h⟩ := bind_eq_ok_iff.mp h
      obtain ⟨rfl, rfl⟩ := eq_of_no_arguments hs h
      have hrest := anyIdent_eq_ok hi
      rw [hrest] at hself
      rw [hrest, eq_of_startsWord hself]
      exact ⟨rfl, .inr ⟨rfl, by decide⟩⟩
    | false =>
      simp only [hself, Bool.false_eq_true, if_false] at h
      obtain ⟨i, c₁, hi, h⟩ := bind_eq_ok_iff.mp h
      obtain ⟨rfl, rfl⟩ := eq_of_no_arguments hs h
      obtain ⟨hrest, hname⟩ := name_eq_ok hi
      exact ⟨hrest, .inl hname⟩

theorem segmentsLoop_eq_ok {ends : Tokens → Bool} {fuel : Nat} {ss : List Segment}
    (h : segmentsLoop (segment g false) ends fuel c = .ok (ss, c')) (hss : ∀ s ∈ ss, s.arguments = none) :
    ∃ ts, c.rest = ts ++ c'.rest ∧ PathTokens ts := by
  -- one segment a step; what the fuel is does not matter, as running out of it is a failure
  induction fuel generalizing c ss with
  | zero => cases h
  | succ fuel ih =>
    unfold segmentsLoop at h
    obtain ⟨s, c₁, hs, h⟩ := bind_eq_ok_iff.mp h
    simp only [rest_bind] at h
    cases hstop : !startsColons c₁.rest || ends c₁.rest with
    | true =>
      simp only [hstop, if_true] at h
      obtain ⟨rfl, rfl⟩ := pure_eq_ok_iff.mp h
      obtain ⟨hrest, hsegment⟩ := segment_eq_ok hs (hss s (by simp))
      exact ⟨[.ident s.name], hrest, .single hsegment⟩
    | false =>
      simp only [hstop, Bool.false_eq_true, if_false] at h
      obtain ⟨t, c₂, hmark, h⟩ := bind_eq_ok_iff.mp h
      obtain ⟨ss', c₃, hloop, h⟩ := bind_eq_ok_iff.mp h
      obtain ⟨rfl, rfl⟩ := pure_eq_ok_iff.mp h
      obtain ⟨hrest, hsegment⟩ := segment_eq_ok hs (hss s (by simp))
      obtain ⟨joint, hcolons⟩ := afterMarks?_colons_eq_some (mark_eq_ok hmark).1
      obtain ⟨ts, hts, hpath⟩ := ih hloop fun s' hs' => hss s' (List.mem_cons_of_mem _ hs')
      exact ⟨.ident s.name :: .mark ':' true :: .mark ':' joint :: ts, by rw [hrest, hcolons, hts]; rfl,
        .cons hsegment hpath⟩

theorem mark?_eq_ok_nil {s : String} (hs : op s ≠ []) (h : mark? s c = .ok ([], c')) : c = c' := by
  unfold mark? at h
  rw [rest_bind] at h
  cases hstarts : startsOp s c.rest with
  | true =>
    rw [hstarts, if_pos rfl] at h
    exact absurd (mark_eq_ok h).2.symm hs
  | false =>
    rw [hstarts, if_neg Bool.false_ne_true] at h
    exact (pure_eq_ok_iff.mp h).2

theorem path_eq_ok {p : CodePath} (h : path g false c = .ok (p, c')) (hrooted : p.rooted = false)
    (hplain : p.isPlain = true) : ∃ ts, c.rest = ts ++ c'.rest ∧ PathTokens ts := by
  unfold path at h
  obtain ⟨root, c₁, hroot, h⟩ := bind_eq_ok_iff.mp h
  obtain ⟨ss, c₂, hsegments, h⟩ := bind_eq_ok_iff.mp h
  obtain ⟨rfl, rfl⟩ := pure_eq_ok_iff.mp h
  have hnone : root = [] := by simpa using hrooted
  rw [hnone] at hroot
  have hsame := mark?_eq_ok_nil (by decide) hroot
  unfold segments at hsegments
  rw [rest_bind] at hsegments
  rw [hsame]
  exact segmentsLoop_eq_ok hsegments fun s hs => by simpa using List.all_eq_true.mp hplain s hs

theorem all_eq_ok {p : Parser α} {a : α} (h : all p ts = .ok a) : ∃ c', p ⟨ts, none⟩ = .ok (a, c') ∧ c'.rest = [] := by
  unfold all at h
  cases hp : p ⟨ts, none⟩ with
  | error f =>
    rw [hp] at h
    cases h
  | ok r =>
    obtain ⟨b, c'⟩ := r
    rw [hp] at h
    simp only at h
    cases hunread : c'.unread with
    | some d =>
      rw [hunread] at h
      cases h
    | none =>
      simp only [hunread, List.isEmpty_iff] at h
      by_cases hrest : c'.rest = []
      · rw [if_pos hrest] at h
        cases h
        exact ⟨c', rfl, hrest⟩
      · rw [if_neg hrest] at h
        cases h

end Parser

theorem pathTokens_of_pathOf {ts : Tokens} {p : CodePath} (h : pathOf ts = .ok p) (hrooted : p.rooted = false)
    (hplain : p.isPlain = true) : PathTokens ts := by
  obtain ⟨c', hpath, hrest⟩ := Parser.all_eq_ok h
  obtain ⟨ts', hts, htokens⟩ := Parser.path_eq_ok hpath hrooted hplain
  rw [hrest, List.append_nil] at hts
  obtain rfl : ts = ts' := hts
  exact htokens

end HostBinder.Code

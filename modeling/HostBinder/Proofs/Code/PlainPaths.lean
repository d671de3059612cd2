import HostBinder.Proofs.Code.PathTokens

set_option autoImplicit false

/-!
What a text looks like that reads as a path or a name. Blanks, comments and a byte order mark are dropped on reading;
a text without these that reads as a path without arguments is made of its segments and the separators between them.
-/

namespace HostBinder.Code

open HostBinder.Text

/-- Whether nothing in a text is dropped on reading. -/
def NothingDropped (cs : List Char) : Prop := ∀ c ∈ cs, Lexer.isSpace c = false ∧ c ≠ '/' ∧ c ≠ '\ufeff'

/-- One or more identifiers of the allowed ones, two colons between any two. -/
inductive IsPlainPath (allowed : Ident → Prop) : List Char → Prop
  | single {i : Ident} (hallowed : allowed i) (htext : isIdentText i.name.toList = true) :
      IsPlainPath allowed i.text.toList
  | cons {i : Ident} {cs : List Char} (hallowed : allowed i) (htext : isIdentText i.name.toList = true)
      (hrest : IsPlainPath allowed cs) : IsPlainPath allowed (i.text.toList ++ ':' :: ':' :: cs)

/-- Tokens that are written one right behind the other. -/
inductive Spells : Tokens → List Char → Prop
  | nil : Spells [] []
  | ident {i : Ident} {ts : Tokens} {cs : List Char} (htext : isIdentText i.name.toList = true)
      (hrest : Spells ts cs) : Spells (.ident i :: ts) (i.text.toList ++ cs)
  | mark {c : Char} {joint : Bool} {ts : Tokens} {cs : List Char} (hrest : Spells ts cs) :
      Spells (.mark c joint :: ts) (c :: cs)

def Token.isIdentOrMark : Token → Bool
  | .ident _ => true
  | .mark _ _ => true
  | _ => false

namespace Lexer

variable {cs rest : List Char} {done ts : Tokens} {outer : List (Delimiter × Tokens)}

theorem dropBlank?_eq_none (h : NothingDropped cs) : dropBlank? cs = none := by
  unfold dropBlank?
  split <;> simp_all [NothingDropped]

theorem docComment?_eq_none (h : NothingDropped cs) : docComment? cs = none := by
  unfold docComment?
  split <;> simp_all [NothingDropped]

theorem identChars?_eq_some {word : List Char} (h : identChars? cs = some (word, rest)) :
    cs = word ++ rest ∧ isIdentText word = true := by
  unfold identChars? at h
  split at h
  · rename_i c cs'
    split at h
    · rename_i hstart
      cases h
      exact ⟨by simp, by simp [isIdentText, hstart]⟩
    · cases h
  · cases h

theorem ident?_eq_some {i : Ident} (h : ident? cs = some (i, rest)) :
    cs = i.text.toList ++ rest ∧ isIdentText i.name.toList = true := by
  unfold ident? at h
  split at h
  · obtain ⟨⟨word, rest'⟩, hword, hraw⟩ := Option.bind_eq_some_iff.mp h
    obtain ⟨rfl, htext⟩ := identChars?_eq_some hword
    simp only at hraw
    split at hraw
    · cases hraw
    · cases hraw
      exact ⟨by simp [Ident.text], by simpa using htext⟩
  · obtain ⟨⟨word, rest'⟩, hword, hplain⟩ := Option.map_eq_some_iff.mp h
    obtain ⟨rfl, htext⟩ := identChars?_eq_some hword
    cases hplain
    exact ⟨by simp [Ident.text], by simpa using htext⟩

theorem mark?_eq_some {t : Token} (h : mark? cs = some (t, rest)) :
    ∃ c joint, t = .mark c joint ∧ cs = c :: rest := by
  unfold mark? at h
  split at h
  · obtain ⟨⟨i, after⟩, _, h⟩ := Option.bind_eq_some_iff.mp h
    simp only at h
    split at h
    · cases h
    · split at h
      · cases h
        exact ⟨_, _, rfl, rfl⟩
      · cases h
    · cases h
      exact ⟨_, _, rfl, rfl⟩
  · split at h
    · cases h
      exact ⟨_, _, rfl, rfl⟩
    · cases h
  · cases h

theorem leaf?_eq_some {t : Token} (h : leaf? cs = some (t, rest)) (ht : t.isIdentOrMark = true) :
    ∃ word, cs = word ++ rest ∧ ∀ {ts : Tokens} {cs' : List Char}, Spells ts cs' → Spells (t :: ts) (word ++ cs') := by
  unfold leaf? at h
  split at h
  · cases h
    cases ht
  · cases hmark : mark? cs with
    | some r =>
      rw [hmark] at h
      cases h
      obtain ⟨c, joint, rfl, rfl⟩ := mark?_eq_some hmark
      exact ⟨[c], rfl, .mark⟩
    | none =>
      rw [hmark] at h
      simp only [Option.orElse_eq_orElse, Option.orElse_none] at h
      split at h
      · cases h
      · obtain ⟨⟨i, rest'⟩, hident, hleaf⟩ := Option.map_eq_some_iff.mp h
        cases hleaf
        obtain ⟨hcs, htext⟩ := ident?_eq_some hident
        exact ⟨_, hcs, .ident htext⟩

/-- The runs of the lexer, step by step: a blank or comment is dropped, a documentation comment becomes an attribute,
a delimiter opens or closes a group, and any other token is added to those before it. -/
inductive Lexes : List Char → Tokens → List (Delimiter × Tokens) → Tokens → Prop
  | stop {done : Tokens} : Lexes [] done [] done.reverse
  | blank {cs rest : List Char} {done ts : Tokens} {outer : List (Delimiter × Tokens)}
      (hdrop : dropBlank? cs = some rest) (hrest : Lexes rest done outer ts) : Lexes cs done outer ts
  | doc {cs text rest : List Char} {inner : Bool} {done ts : Tokens} {outer : List (Delimiter × Tokens)}
      (hdoc : docComment? cs = some (inner, text, rest))
      (hrest : Lexes rest ((docTokens inner text).reverse ++ done) outer ts) : Lexes cs done outer ts
  | opening {c : Char} {rest : List Char} {d : Delimiter} {done ts : Tokens} {outer : List (Delimiter × Tokens)}
      (hrest : Lexes rest [] ((d, done) :: outer) ts) : Lexes (c :: rest) done outer ts
  | closing {c : Char} {rest : List Char} {d : Delimiter} {done before ts : Tokens}
      {outer : List (Delimiter × Tokens)} (hrest : Lexes rest (.group d done.reverse :: before) outer ts) :
      Lexes (c :: rest) done ((d, before) :: outer) ts
  | leaf {cs rest : List Char} {t : Token} {done ts : Tokens} {outer : List (Delimiter × Tokens)}
      (hleaf : leaf? cs = some (t, rest)) (hrest : Lexes rest (t :: done) outer ts) : Lexes cs done outer ts

theorem lexes_of_lexFrom {fuel : Nat} (h : lexFrom fuel cs done outer = some ts) : Lexes cs done outer ts := by
  induction fuel generalizing cs done outer with
  | zero => cases h
  | succ fuel ih =>
    unfold lexFrom at h
    split at h
    · exact .blank (by assumption) (ih h)
    split at h
    · split at h
      · exact .doc (by assumption) (ih h)
      · cases h
    split at h
    · split at h
      · rename_i houter
        rw [List.isEmpty_iff] at houter
        subst houter
        cases h
        exact .stop
      · cases h
    split at h
    · exact .opening (ih h)
    · split at h
      · split at h
        · rename_i hd
          subst hd
          exact .closing (ih h)
        · cases h
      · cases h
    · split at h
      · exact .leaf (by assumption) (ih h)
      · cases h

/-- What is neither identifier nor mark stays among the tokens, and an open group becomes such a token. -/
theorem Lexes.exists_other (h : Lexes cs done outer ts) (hother : outer ≠ [] ∨ ∃ t ∈ done, t.isIdentOrMark = false) :
    ∃ t ∈ ts, t.isIdentOrMark = false := by
  induction h with
  | stop =>
    rcases hother with houter | ⟨t, ht, hnot⟩
    · exact absurd rfl houter
    · exact ⟨t, List.mem_reverse.mpr ht, hnot⟩
  | blank _ _ ih => exact ih hother
  | doc _ _ ih =>
    rcases hother with houter | ⟨t, ht, hnot⟩
    · exact ih (.inl houter)
    · exact ih (.inr ⟨t, List.mem_append_right _ ht, hnot⟩)
  | opening _ ih => exact ih (.inl (List.cons_ne_nil _ _))
  | closing _ ih => exact ih (.inr ⟨_, List.mem_cons_self, rfl⟩)
  | leaf _ _ ih =>
    rcases hother with houter | ⟨t, ht, hnot⟩
    · exact ih (.inl houter)
    · exact ih (.inr ⟨t, List.mem_cons_of_mem _ ht, hnot⟩)

/-- Tokens that are all identifiers and marks stand in the text one right behind the other. -/
theorem Lexes.spells (h : Lexes cs done [] ts) (hwhole : NothingDropped cs)
    (hts : ∀ t ∈ ts, t.isIdentOrMark = true) : ∃ new, ts = done.reverse ++ new ∧ Spells new cs := by
  have hnone : ¬∃ t ∈ ts, t.isIdentOrMark = false := by
    intro hx
    obtain ⟨t, ht, hnot⟩ := hx
    rw [hts t ht] at hnot
    cases hnot
  -- no group is ever opened, as it would be among the tokens in the end
  generalize houter : ([] : List (Delimiter × Tokens)) = outer at h
  induction h with
  | stop => exact ⟨[], (List.append_nil _).symm, .nil⟩
  | blank hdrop =>
    rw [dropBlank?_eq_none hwhole] at hdrop
    cases hdrop
  | doc hdoc =>
    rw [docComment?_eq_none hwhole] at hdoc
    cases hdoc
  | opening hrest => exact absurd (hrest.exists_other (.inl (List.cons_ne_nil _ _))) hnone
  | closing => cases houter
  | @leaf cs rest t done ts outer hleaf hrest ih =>
    have ht : t.isIdentOrMark = true := by
      rw [← Bool.not_eq_false]
      exact fun hnot => hnone (hrest.exists_other (.inr ⟨t, List.mem_cons_self, hnot⟩))
    obtain ⟨word, hcs, hword⟩ := leaf?_eq_some hleaf ht
    have hwhole' : NothingDropped rest := fun c hc => hwhole c (by rw [hcs]; exact List.mem_append_right _ hc)
    obtain ⟨new, hnew, hspells⟩ := ih hwhole' hts hnone houter
    refine ⟨t :: new, by simp [hnew], ?_⟩
    rw [hcs]
    exact hword hspells

end Lexer

variable {s : String} {ts : Tokens}

theorem spells_of_lex? (hwhole : NothingDropped s.toList) (h : lex? s = some ts)
    (hts : ∀ t ∈ ts, t.isIdentOrMark = true) : Spells ts s.toList := by
  unfold lex? at h
  simp only at h
  split at h
  · rename_i rest hmark
    exact absurd rfl (hwhole '\ufeff' (by rw [hmark]; exact List.mem_cons_self)).2.2
  · obtain ⟨new, rfl, hspells⟩ := (Lexer.lexes_of_lexFrom h).spells hwhole hts
    exact hspells

theorem PathTokens.isIdentOrMark (h : PathTokens ts) : ∀ t ∈ ts, t.isIdentOrMark = true := by
  induction h with
  | single => simp [Token.isIdentOrMark]
  | cons _ _ ih => simpa [Token.isIdentOrMark] using ih

theorem PathTokens.isPlainPath (h : PathTokens ts) {cs : List Char} (hspells : Spells ts cs) :
    IsPlainPath Ident.IsSegment cs := by
  induction h generalizing cs with
  | single hsegment =>
    cases hspells with
    | ident htext hrest =>
      cases hrest
      rw [List.append_nil]
      exact .single hsegment htext
  | cons hsegment _ ih =>
    cases hspells with
    | ident htext hrest =>
      cases hrest with
      | mark hrest =>
        cases hrest with
        | mark hrest => exact .cons hsegment htext (ih hrest)

theorem isPlainPath_of_pathOfText? {p : CodePath} (h : pathOfText? s = some p) (hrooted : p.rooted = false)
    (hplain : p.isPlain = true) (hwhole : NothingDropped s.toList) : IsPlainPath Ident.IsSegment s.toList := by
  obtain ⟨ts, hlex, hpath⟩ := Option.bind_eq_some_iff.mp h
  have htokens : PathTokens ts := by
    cases hp : pathOf ts with
    | error f =>
      rw [hp] at hpath
      cases hpath
    | ok p' =>
      rw [hp] at hpath
      cases hpath
      exact pathTokens_of_pathOf hp hrooted hplain
  exact htokens.isPlainPath (spells_of_lex? hwhole hlex htokens.isIdentOrMark)

theorem eq_text_of_nameOfText? {i : Ident} (h : nameOfText? s = some i) (hwhole : NothingDropped s.toList) :
    s = i.text ∧ i.isName = true ∧ isIdentText i.name.toList = true := by
  obtain ⟨ts, hlex, hname⟩ := Option.bind_eq_some_iff.mp h
  have htokens : ts = [.ident i] ∧ i.isName = true := by
    cases hp : Parser.all Parser.name ts with
    | error f =>
      rw [hp] at hname
      cases hname
    | ok i' =>
      rw [hp] at hname
      cases hname
      obtain ⟨c', hident, hrest⟩ := Parser.all_eq_ok hp
      obtain ⟨hts, hisName⟩ := Parser.name_eq_ok hident
      rw [hrest] at hts
      exact ⟨hts, hisName⟩
  obtain ⟨rfl, hisName⟩ := htokens
  have hspells := spells_of_lex? hwhole hlex (by simp [Token.isIdentOrMark])
  generalize hcs : s.toList = cs at hspells
  cases hspells with
  | ident htext hrest =>
    cases hrest
    rw [List.append_nil] at hcs
    exact ⟨String.toList_injective hcs, hisName, htext⟩

theorem inRanges_eq_false_of_apart {rs rs' : List (Nat × Nat)}
    (hapart : rs.all (fun r => rs'.all fun r' => r.2 < r'.1 || r'.2 < r.1) = true) {c : Char}
    (h : inRanges rs c = true) : inRanges rs' c = false := by
  rw [Bool.eq_false_iff]
  intro h'
  obtain ⟨r, hr, hc⟩ := List.any_eq_true.mp h
  obtain ⟨r', hr', hc'⟩ := List.any_eq_true.mp h'
  have hboth := List.all_eq_true.mp (List.all_eq_true.mp hapart r hr) r' hr'
  simp only [Bool.and_eq_true, Bool.or_eq_true, decide_eq_true_eq] at hc hc' hboth
  omega

def spaceRanges : List (Nat × Nat) := blankRanges ++ [(0x200e, 0x200f)]

def nameRanges : List (Nat × Nat) :=
  [(48, 57), (65, 90), (95, 95), (97, 122)] ++ (identStartRanges ++ identRestRanges)

theorem isSpace_eq_inRanges (c : Char) : Lexer.isSpace c = inRanges spaceRanges c := by
  unfold Lexer.isSpace isBlank inRanges spaceRanges
  rw [List.any_append, Bool.or_assoc]
  congr 1
  rw [Bool.eq_iff_iff]
  simp
  omega

theorem inRanges_of_isIdentRest {c : Char} (h : isIdentRest c = true) : inRanges nameRanges c = true := by
  unfold isIdentRest at h
  unfold inRanges nameRanges at *
  rw [List.any_append, List.any_append, Bool.or_eq_true]
  rw [Bool.or_eq_true, Bool.and_eq_true] at h
  rcases h with h | ⟨_, h⟩
  · left
    have halpha : c.isAlpha =
        (decide (65 ≤ c.val ∧ c.val ≤ 90) || decide (97 ≤ c.val) && decide (c.val ≤ 122)) := rfl
    simp only [Char.isAlphanum, halpha, Char.isDigit, Bool.or_eq_true, Bool.and_eq_true, decide_eq_true_eq, beq_iff_eq,
      UInt32.le_iff_toNat_le] at h
    simp only [List.any_cons, List.any_nil, Bool.or_eq_true, Bool.and_eq_true, decide_eq_true_eq]
    rcases h with (h | h) | rfl
    · simp at h
      omega
    · simp at h
      omega
    · decide
  · exact .inr h

theorem nothingDropped_of_all_isIdentRest {cs : List Char} (h : ∀ c ∈ cs, isIdentRest c = true) :
    NothingDropped cs := by
  intro c hc
  have hname := h c hc
  refine ⟨?_, ?_, ?_⟩
  · rw [isSpace_eq_inRanges]
    exact inRanges_eq_false_of_apart (by decide +kernel) (inRanges_of_isIdentRest hname)
  · rintro rfl
    revert hname
    decide +kernel
  · rintro rfl
    revert hname
    decide +kernel

theorem NothingDropped.nil : NothingDropped [] := fun _ hc => nomatch hc

theorem NothingDropped.cons {c : Char} {cs : List Char} (hc : Lexer.isSpace c = false ∧ c ≠ '/' ∧ c ≠ '\ufeff')
    (hcs : NothingDropped cs) : NothingDropped (c :: cs) :=
  List.forall_mem_cons.mpr ⟨hc, hcs⟩

theorem NothingDropped.append {cs ds : List Char} (hcs : NothingDropped cs) (hds : NothingDropped ds) :
    NothingDropped (cs ++ ds) := by
  intro c hc
  rcases List.mem_append.mp hc with hc | hc
  · exact hcs c hc
  · exact hds c hc

theorem all_isIdentRest_of_isIdentText {cs : List Char} (h : isIdentText cs = true) :
    ∀ c ∈ cs, isIdentRest c = true := by
  cases cs with
  | nil => simp
  | cons c cs =>
    simp only [isIdentText, Bool.and_eq_true, List.all_eq_true] at h
    intro d hd
    rcases List.mem_cons.mp hd with rfl | hd
    · exact isIdentRest_of_isIdentStart d h.1
    · exact h.2 d hd

theorem Ident.nothingDropped_text {i : Ident} (h : isIdentText i.name.toList = true) :
    NothingDropped i.text.toList := by
  have hname := nothingDropped_of_all_isIdentRest (all_isIdentRest_of_isIdentText h)
  unfold Ident.text
  split
  · rw [String.toList_append]
    have hmark : NothingDropped ['r', '#'] := .cons (by decide) (.cons (by decide) .nil)
    exact hmark.append hname
  · exact hname

theorem Ident.exists_isIdentStart_text {i : Ident} (h : isIdentText i.name.toList = true) :
    ∃ c cs, i.text.toList = c :: cs ∧ isIdentStart c = true := by
  unfold Ident.text
  split
  · exact ⟨'r', '#' :: i.name.toList, by rw [String.toList_append]; rfl, by decide⟩
  · cases hname : i.name.toList with
    | nil =>
      rw [hname] at h
      cases h
    | cons c cs =>
      rw [hname, isIdentText, Bool.and_eq_true] at h
      exact ⟨c, cs, rfl, h.1⟩

namespace IsPlainPath

variable {allowed : Ident → Prop} {cs ds : List Char}

theorem nothingDropped (h : IsPlainPath allowed cs) : NothingDropped cs := by
  induction h with
  | single _ htext => exact Ident.nothingDropped_text htext
  | @cons i cs _ htext _ ih =>
    have hcolons : NothingDropped [':', ':'] := .cons (by decide) (.cons (by decide) .nil)
    exact (Ident.nothingDropped_text htext).append (hcolons.append ih)

theorem append (hcs : IsPlainPath allowed cs) (hds : IsPlainPath allowed ds) :
    IsPlainPath allowed (cs ++ ':' :: ':' :: ds) := by
  induction hcs with
  | single hallowed htext => exact .cons hallowed htext hds
  | cons hallowed htext _ ih =>
    rw [List.append_assoc, List.cons_append, List.cons_append]
    exact .cons hallowed htext ih

theorem exists_isIdentStart (h : IsPlainPath allowed cs) : ∃ c cs', cs = c :: cs' ∧ isIdentStart c = true := by
  cases h with
  | single _ htext => exact Ident.exists_isIdentStart_text htext
  | cons _ htext _ =>
    obtain ⟨c, cs', hcs, hstart⟩ := Ident.exists_isIdentStart_text htext
    exact ⟨c, _, by rw [hcs]; rfl, hstart⟩

end IsPlainPath

end HostBinder.Code

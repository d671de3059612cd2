import HostBinder.Binder.Unit
import HostBinder.Proofs.Code.Lexing
import HostBinder.Proofs.Code.PlainPaths
import Mathlib.Data.List.TakeWhile

set_option autoImplicit false

namespace HostBinder.Code

open HostBinder.Text

structure Ident.IsToken (i : Ident) : Prop where
  text : isIdentText i.name.toList = true
  rawable : i.raw = true → i.name ∉ unrawable

theorem ne_of_isIdentRest {c d : Char} (hc : isIdentRest c = true) (hd : isIdentRest d = false) : c ≠ d := by
  rintro rfl
  simp [hc] at hd

theorem isIdentText_eq_cons {cs : List Char} (h : isIdentText cs = true) :
    ∃ c rest, cs = c :: rest ∧ isIdentStart c = true ∧ ∀ d ∈ rest, isIdentRest d = true := by
  cases cs with
  | nil => cases h
  | cons c rest =>
    rw [isIdentText, Bool.and_eq_true, List.all_eq_true] at h
    exact ⟨c, rest, rfl, h⟩

theorem isDigit_of_isIdentStart {c : Char} (h : isIdentStart c = true) : c.isDigit = false := by
  rw [Bool.eq_false_iff]
  intro hdigit
  have halpha : c.isAlpha =
      (decide (65 ≤ c.val ∧ c.val ≤ 90) || decide (97 ≤ c.val) && decide (c.val ≤ 122)) := rfl
  simp only [isIdentStart, halpha, Bool.or_eq_true, Bool.and_eq_true, decide_eq_true_eq, beq_iff_eq,
    UInt32.le_iff_toNat_le] at h
  simp only [Char.isDigit, Bool.and_eq_true, decide_eq_true_eq, UInt32.le_iff_toNat_le] at hdigit
  simp at h hdigit
  rcases h with (h | rfl) | h
  · omega
  · revert hdigit
    decide
  · have hlarge := h.1
    rw [show c.toNat = c.val.toNat from rfl] at hlarge
    omega

/-- Text in front of which a word ends: it goes on with no character of identifiers, and with none that would make
the word part of a literal or of a raw identifier. -/
def EndsWord (rest : List Char) : Prop :=
  ∀ d ∈ rest.head?, isIdentRest d = false ∧ d ≠ '#' ∧ d ≠ '\x22' ∧ d ≠ '\x27'

theorem EndsWord.nil : EndsWord [] := by simp [EndsWord]

theorem EndsWord.head_of_append {cs rest : List Char} (h : EndsWord rest) (hcs : ∀ d ∈ cs, isIdentRest d = true) :
    ∀ d cs', cs ++ rest = d :: cs' → d ≠ '#' ∧ d ≠ '\x22' ∧ d ≠ '\x27' := by
  intro d cs' heq
  cases cs with
  | nil =>
    rw [List.nil_append] at heq
    exact (h d (by rw [heq]; rfl)).2
  | cons c cs =>
    obtain ⟨rfl, _⟩ := List.cons.inj heq
    have hc := hcs c List.mem_cons_self
    exact ⟨ne_of_isIdentRest hc (by decide), ne_of_isIdentRest hc (by decide), ne_of_isIdentRest hc (by decide)⟩

theorem EndsWord.tail_of_append {cs rest cs' : List Char} {d : Char} (h : EndsWord rest)
    (hcs : ∀ d ∈ cs, isIdentRest d = true) (hd : isIdentRest d = true) (heq : cs ++ rest = d :: cs') :
    ∃ word, cs' = word ++ rest ∧ ∀ d ∈ word, isIdentRest d = true := by
  cases cs with
  | nil =>
    rw [List.nil_append] at heq
    have hhead := (h d (by rw [heq]; rfl)).1
    rw [hd] at hhead
    cases hhead
  | cons c word =>
    obtain ⟨rfl, rfl⟩ := List.cons.inj heq
    exact ⟨word, rfl, fun d hd => hcs d (List.mem_cons_of_mem _ hd)⟩

namespace Literal

variable {c : Char} {cs rest : List Char}

theorem hexDigit?_ge {d : Nat} (hc : c.isDigit = false) (h : hexDigit? c = some d) : 10 ≤ d := by
  unfold hexDigit? at h
  split at h
  · rename_i hdigit
    rw [Bool.and_eq_true, decide_eq_true_eq, decide_eq_true_eq] at hdigit
    have hdigit' : c.isDigit = true := by
      simp [Char.isDigit]
      exact hdigit
    rw [hc] at hdigit'
    cases hdigit'
  · split at h
    · cases h
      omega
    · split at h
      · cases h
        omega
      · cases h

theorem digits_eq_none (hc : c.isDigit = false) : digits 10 true (c :: rest) = none := by
  unfold digits
  split
  · rfl
  · split
    · rename_i d hd
      have hge := hexDigit?_ge hc hd
      rw [if_neg (by omega), if_pos (by simp)]
    · rfl

theorem integer_eq_none (hc : c.isDigit = false) : integer (c :: rest) = none := by
  have hzero : c ≠ '0' := by
    rintro rfl
    revert hc
    decide
  unfold integer
  split <;> simp_all [digits_eq_none hc]

theorem float_eq_none (hc : c.isDigit = false) : float (c :: rest) = none := by
  simp [float, hc]

theorem raw_eq_none {plain : Char → Bool} {n : Nat} (h : EndsWord rest) (hcs : ∀ d ∈ cs, isIdentRest d = true) :
    raw plain (List.replicate n '#' ++ (cs ++ rest)) = none := by
  have hhead := h.head_of_append hcs
  have hcount : ((List.replicate n '#' ++ (cs ++ rest)).takeWhile (· == '#')).length = n := by
    rw [List.takeWhile_append_of_pos (by simp)]
    cases hword : cs ++ rest with
    | nil => simp
    | cons d cs' => simp [(hhead d cs' hword).1]
  unfold raw
  simp only [hcount]
  split
  · rename_i rest hdrop
    rw [List.drop_append_of_le_length (by simp), List.drop_replicate, Nat.sub_self] at hdrop
    exact absurd rfl (hhead _ _ hdrop).2.1
  · rfl

theorem after?_plain (h : EndsWord rest) (hstart : isIdentStart c = true) (hcs : ∀ d ∈ cs, isIdentRest d = true) :
    after? (c :: (cs ++ rest)) = none := by
  have hdigit := isDigit_of_isIdentStart hstart
  have hc := isIdentRest_of_isIdentStart c hstart
  have hdouble : c ≠ '\x22' := ne_of_isIdentRest hc (by decide)
  have hsingle : c ≠ '\x27' := ne_of_isIdentRest hc (by decide)
  have hhead := h.head_of_append hcs
  have hraw : ∀ (plain : Char → Bool) (d : Char) (cs' : List Char), isIdentRest d = true → cs ++ rest = d :: cs' →
      raw plain cs' = none := by
    intro plain d cs' hd heq
    obtain ⟨word, rfl, hword⟩ := h.tail_of_append hcs hd heq
    exact raw_eq_none (n := 0) h hword
  unfold after?
  simp only [float_eq_none hdigit, integer_eq_none hdigit]
  split <;> rename_i heq
  · exact absurd (List.cons.inj heq).1 hdouble
  · rw [← (List.cons.inj heq).2]
    have hnone : raw (fun _ => true) (cs ++ rest) = none := raw_eq_none (n := 0) h hcs
    simp [hnone]
  · exact absurd rfl (hhead _ _ (List.cons.inj heq).2).2.1
  · simp [hraw _ _ _ (by decide) (List.cons.inj heq).2]
  · exact absurd rfl (hhead _ _ (List.cons.inj heq).2).2.1
  · simp [hraw _ _ _ (by decide) (List.cons.inj heq).2]
  · exact absurd rfl (hhead _ _ (List.cons.inj heq).2).2.2
  · exact absurd (List.cons.inj heq).1 hsingle
  · rfl

theorem after?_raw (h : EndsWord rest) (hcs : ∀ d ∈ cs, isIdentRest d = true) :
    after? ('r' :: '#' :: (cs ++ rest)) = none := by
  have hraw : raw (fun _ => true) ('#' :: (cs ++ rest)) = none := raw_eq_none (n := 1) h hcs
  unfold after?
  simp only [float_eq_none (by decide : ('r').isDigit = false), integer_eq_none (by decide : ('r').isDigit = false)]
  simp [hraw]

end Literal

namespace Lexer

variable {c : Char} {cs rest : List Char} {i : Ident}

theorem opening?_eq_none (h : isIdentStart c = true) : opening? c = none := by
  have hmark := fun d => ne_of_isIdentRest (d := d) (isIdentRest_of_isIdentStart c h)
  unfold opening?
  split
  · exact absurd rfl (hmark '(' (by decide))
  · exact absurd rfl (hmark '[' (by decide))
  · exact absurd rfl (hmark '\x7b' (by decide))
  · rfl

theorem closing?_eq_none (h : isIdentStart c = true) : closing? c = none := by
  have hmark := fun d => ne_of_isIdentRest (d := d) (isIdentRest_of_isIdentStart c h)
  unfold closing?
  split
  · exact absurd rfl (hmark ')' (by decide))
  · exact absurd rfl (hmark ']' (by decide))
  · exact absurd rfl (hmark '\x7d' (by decide))
  · rfl

theorem startsWithMark_eq_false (h : isIdentStart c = true) : startsWithMark (c :: rest) = false := by
  have hrest := isIdentRest_of_isIdentStart c h
  have hmarks : markChars.all (fun d => !isIdentRest d) = true := by decide +kernel
  have hmark : c ∉ markChars := by
    intro hmem
    simpa [hrest] using List.all_eq_true.mp hmarks c hmem
  have hslash : c ≠ '/' := ne_of_isIdentRest hrest (by decide)
  unfold startsWithMark
  split <;> simp_all

theorem mark?_eq_none (h : isIdentStart c = true) : mark? (c :: rest) = none := by
  have hquote : c ≠ '\x27' := ne_of_isIdentRest (isIdentRest_of_isIdentStart c h) (by decide)
  have hstarts : startsWithMark (c :: rest) = false := startsWithMark_eq_false h
  unfold mark?
  split <;> simp_all

theorem identChars?_append (h : isIdentText cs = true) (hrest : EndsWord rest) :
    identChars? (cs ++ rest) = some (cs, rest) := by
  obtain ⟨c, word, rfl, hstart, hword⟩ := isIdentText_eq_cons h
  have hnone : rest.takeWhile isIdentRest = [] := by
    cases rest with
    | nil => rfl
    | cons d rest => simp [(hrest d rfl).1]
  have htake : (word ++ rest).takeWhile isIdentRest = word := by
    rw [List.takeWhile_append_of_pos hword, hnone, List.append_nil]
  have hdrop : (word ++ rest).dropWhile isIdentRest = rest := by
    rw [List.dropWhile_append_of_pos hword]
    cases rest with
    | nil => rfl
    | cons d rest => simp [(hrest d rfl).1]
  rw [List.cons_append, identChars?, if_pos hstart, htake, hdrop]

theorem startsLiteral_eq_false (h : EndsWord rest) (hcs : ∀ d ∈ cs, isIdentRest d = true) :
    startsLiteral (c :: (cs ++ rest)) = false := by
  have hhead := h.head_of_append hcs
  have hnext : ∀ (d e : Char) (cs' : List Char), isIdentRest d = true → cs ++ rest = d :: e :: cs' →
      e ≠ '#' ∧ e ≠ '\x22' := by
    intro d e cs' hd heq
    obtain ⟨word, hcs', hword⟩ := h.tail_of_append hcs hd heq
    obtain ⟨hsharp, hquote, _⟩ := h.head_of_append hword e cs' hcs'.symm
    exact ⟨hsharp, hquote⟩
  unfold startsLiteral
  split <;> rename_i heq
  · exact absurd rfl (hhead _ _ (List.cons.inj heq).2).2.1
  · exact absurd rfl (hhead _ _ (List.cons.inj heq).2).1
  · exact absurd rfl (hhead _ _ (List.cons.inj heq).2).1
  · exact absurd rfl (hhead _ _ (List.cons.inj heq).2).2.1
  · exact absurd rfl (hhead _ _ (List.cons.inj heq).2).2.2
  · exact absurd rfl (hnext _ _ _ (by decide) (List.cons.inj heq).2).2
  · exact absurd rfl (hnext _ _ _ (by decide) (List.cons.inj heq).2).1
  · exact absurd rfl (hhead _ _ (List.cons.inj heq).2).2.1
  · exact absurd rfl (hnext _ _ _ (by decide) (List.cons.inj heq).2).2
  · exact absurd rfl (hnext _ _ _ (by decide) (List.cons.inj heq).2).1
  · rfl

/-- The text of an identifier is one token, whatever comes behind it. -/
theorem leaf?_append (h : i.IsToken) (hrest : EndsWord rest) :
    leaf? (i.text.toList ++ rest) = some (.ident i, rest) := by
  obtain ⟨name, raw⟩ := i
  obtain ⟨c, word, hname, hstart, hword⟩ := isIdentText_eq_cons h.text
  have hall := all_isIdentRest_of_isIdentText h.text
  simp only at hname hall
  have hchars : identChars? (name.toList ++ rest) = some (name.toList, rest) := identChars?_append h.text hrest
  cases raw with
  | false =>
    have htext : (Ident.mk name false).text.toList ++ rest = c :: (word ++ rest) := by
      rw [Ident.text, if_neg Bool.false_ne_true, hname, List.cons_append]
    have hident : ident? (c :: (word ++ rest)) = some (⟨name, false⟩, rest) := by
      unfold ident?
      split
      · rename_i heq
        exact absurd rfl (hrest.head_of_append hword _ _ (List.cons.inj heq).2).1
      · rw [← List.cons_append, ← hname, hchars, Option.map_some, String.ofList_toList]
    rw [htext, leaf?, Literal.after?_plain hrest hstart hword, mark?_eq_none hstart,
      startsLiteral_eq_false hrest hword, hident]
    rfl
  | true =>
    have htext : (Ident.mk name true).text.toList ++ rest = 'r' :: '#' :: (name.toList ++ rest) := by
      simp [Ident.text]
    have hhead := hrest.head_of_append hall
    have hliteral : startsLiteral ('r' :: '#' :: (name.toList ++ rest)) = false := by
      unfold startsLiteral
      split <;> simp_all
    have hident : ident? ('r' :: '#' :: (name.toList ++ rest)) = some (⟨name, true⟩, rest) := by
      have hrawable := h.rawable rfl
      simp [ident?, hchars, hrawable]
    rw [htext, leaf?, Literal.after?_raw hrest hall, mark?_eq_none (by decide), hliteral, hident]
    rfl

end Lexer

theorem lex?_text {i : Ident} (h : i.IsToken) : lex? i.text = some [.ident i] := by
  have hwhole := Ident.nothingDropped_text h.text
  have hleaf := Lexer.leaf?_append h .nil
  rw [List.append_nil] at hleaf
  have hblank := Lexer.dropBlank?_eq_none hwhole
  have hdoc := Lexer.docComment?_eq_none hwhole
  obtain ⟨c, rest, htext, hstart⟩ := Ident.exists_isIdentStart_text h.text
  have hbom : c ≠ '\ufeff' := (hwhole c (by rw [htext]; exact List.mem_cons_self)).2.2
  rw [htext] at hleaf hblank hdoc
  have hfirst : i.text.toList.head? ≠ some '\ufeff' := by
    rw [htext]
    exact fun heq => hbom (Option.some.inj heq)
  rw [lex?_eq_lexFrom hfirst, htext, Lexer.lexFrom, hblank, hdoc]
  simp only [Lexer.opening?_eq_none hstart, Lexer.closing?_eq_none hstart, hleaf]
  rfl

theorem Ident.IsToken.eq_of_text_eq {i j : Ident} (hi : i.IsToken) (hj : j.IsToken) (h : i.text = j.text) : i = j := by
  have hread := (lex?_text hi).symm.trans ((congrArg lex? h).trans (lex?_text hj))
  exact Token.ident.inj (List.singleton_inj.mp (Option.some.inj hread))

theorem nameOfText?_text {i : Ident} (h : i.IsToken) :
    nameOfText? i.text = if i.isName = true then some i else none := by
  rw [nameOfText?, lex?_text h, Option.bind_some]
  cases hname : i.isName with
  | true => simp [Parser.all, Parser.name, hname]; rfl
  | false => simp [Parser.all, Parser.name, hname]; rfl

variable {name : String}

theorem nameOfText?_of_isIdentText (h : isIdentText name.toList = true) :
    nameOfText? name = if name ∈ reservedWords then none else some ⟨name, false⟩ := by
  have hread := nameOfText?_text (i := ⟨name, false⟩) ⟨h, fun hraw => nomatch hraw⟩
  simpa [Ident.text, Ident.isName] using hread

theorem unrawable_subset : unrawable ⊆ reservedWords := by decide

end HostBinder.Code

namespace HostBinder

open Code

theorem fieldIdent?_of_isIdentText {name : String} (h : isIdentText name.toList = true) :
    fieldIdent? name = .ok (if name ∈ unrawable then none else some ⟨name, decide (name ∈ reservedWords)⟩) := by
  rw [fieldIdent?, nameOfText?_of_isIdentText h]
  by_cases hreserved : name ∈ reservedWords
  · by_cases hunrawable : name ∈ unrawable
    · simp [hreserved, hunrawable]
    · have hraw : nameOfText? ("r#" ++ name) = some ⟨name, true⟩ :=
        nameOfText?_text (i := ⟨name, true⟩) ⟨h, fun _ => hunrawable⟩
      have hident : rawIdent name = .ok ⟨name, true⟩ := by simp [rawIdent, h, hunrawable]
      simp [hreserved, hunrawable, hraw, hident]
      rfl
  · have hrawable : name ∉ unrawable := fun hmem => hreserved (unrawable_subset hmem)
    simp [hreserved, hrawable]

end HostBinder

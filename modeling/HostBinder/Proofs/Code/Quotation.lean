import HostBinder.Code.LiteralValue
import Mathlib.Tactic.SplitIfs

set_option autoImplicit false

/-!
String literals read back. A literal ends at its own closing quote and denotes one text, and the literals that are
written for a text denote that very text, whatever characters are in it.
-/

namespace HostBinder.Code

open HostBinder.Text

namespace Literal

/-- A number written by hexadecimal digits, with their count. Underscores may stand behind the first digit. -/
inductive HexNumeral : List Char → Nat → Nat → Prop
  | first {a : Char} {d : Nat} : hexDigit? a = some d → HexNumeral [a] 1 d
  | digit {cs : List Char} {count n : Nat} {a : Char} {d : Nat} : HexNumeral cs count n → hexDigit? a = some d →
      HexNumeral (cs ++ [a]) (count + 1) (16 * n + d)
  | underscore {cs : List Char} {count n : Nat} : HexNumeral cs count n → HexNumeral (cs ++ ['_']) count n

theorem HexNumeral.pos {cs : List Char} {count n : Nat} (h : HexNumeral cs count n) : 0 < count := by
  induction h with
  | first _ => exact Nat.one_pos
  | digit _ _ _ => exact Nat.succ_pos _
  | underscore _ ih => exact ih

theorem unicodeEscape_digit {a : Char} {d : Nat} (h : hexDigit? a = some d) {length : Nat} (hlength : length < 6)
    (value : Nat) (cs : List Char) :
    unicodeEscape length value (a :: cs) = unicodeEscape (length + 1) (16 * value + d) cs := by
  have hclose : a ≠ '}' := by
    rintro rfl
    cases h
  have hunderscore : a ≠ '_' := by
    rintro rfl
    cases h
  rw [unicodeEscape, if_neg hclose, if_neg hunderscore, h]
  exact if_neg (Nat.ne_of_lt hlength)

theorem HexNumeral.unicodeEscape {cs : List Char} {count n : Nat} (h : HexNumeral cs count n) (hcount : count ≤ 6)
    (rest : List Char) : unicodeEscape 0 0 (cs ++ rest) = Literal.unicodeEscape count n rest := by
  induction h generalizing rest with
  | first ha => simpa using unicodeEscape_digit ha (by decide) 0 rest
  | digit _ ha ih => rw [List.append_assoc, ih (by omega), List.singleton_append, unicodeEscape_digit ha hcount]
  | underscore hcs ih =>
    rw [List.append_assoc, ih hcount, List.singleton_append, Literal.unicodeEscape]
    simp [hcs.pos]

theorem isScalar_toNat (c : Char) : isScalar c.toNat = true := by
  have hvalid : c.toNat < 0xd800 ∨ (0xdfff < c.toNat ∧ c.toNat < 0x110000) := c.valid
  simpa [isScalar] using hvalid

theorem HexNumeral.unicodeEscape_char {c : Char} {digits : List Char} {count : Nat}
    (h : HexNumeral digits count c.toNat) (hcount : count ≤ 6) (cs : List Char) :
    Literal.unicodeEscape 0 0 (digits ++ '}' :: cs) = some (c.toNat, cs) := by
  rw [h.unicodeEscape hcount]
  simp [Literal.unicodeEscape, h.pos, isScalar_toNat]

def escapeLetters : List (Char × Char) :=
  [('n', '\n'), ('r', '\r'), ('t', '\t'), ('0', '\x00'), ('\\', '\\'), ('\x27', '\x27'), ('\x22', '\x22')]

/-- The text that is written between the quotes of a string literal without escaped line breaks. Each character stands
for itself, or is written by a letter, by two hexadecimal digits if it is in ASCII, or by its number. -/
inductive Denotes : List Char → List Char → Prop
  | nil : Denotes [] []
  | plain {c : Char} {body text : List Char} (hquote : c ≠ '\x22') (hslash : c ≠ '\\') (hreturn : c ≠ '\r')
      (hrest : Denotes body text) : Denotes (c :: body) (c :: text)
  | letter {e c : Char} {body text : List Char} (hletter : (e, c) ∈ escapeLetters) (hrest : Denotes body text) :
      Denotes ('\\' :: e :: body) (c :: text)
  | hex {a b : Char} {m n : Nat} {body text : List Char} (ha : hexDigit? a = some m) (hm : m < 8)
      (hb : hexDigit? b = some n) (hrest : Denotes body text) :
      Denotes ('\\' :: 'x' :: a :: b :: body) (Char.ofNat (16 * m + n) :: text)
  | number {c : Char} {digits : List Char} {count : Nat} {body text : List Char}
      (hnumber : HexNumeral digits count c.toNat) (hcount : count ≤ 6) (hrest : Denotes body text) :
      Denotes ('\\' :: 'u' :: '{' :: (digits ++ '}' :: body)) (c :: text)

/-- The string literal `written` denotes `text`. -/
def IsStringLiteral (written text : String) : Prop :=
  ∃ body, written.toList = '\x22' :: body ++ ['\x22'] ∧ Denotes body text.toList

theorem octal_of_hexDigit? {a : Char} {m : Nat} (ha : hexDigit? a = some m) (hm : m < 8) : '0' ≤ a ∧ a ≤ '7' := by
  unfold hexDigit? at ha
  split_ifs at ha with hdigit
  · simp only [Bool.and_eq_true, decide_eq_true_eq] at hdigit
    have hvalue : a.toNat - '0'.toNat = m := Option.some.inj ha
    have hbound : a.toNat ≤ '7'.toNat := by
      have hseven : '7'.toNat = '0'.toNat + 7 := rfl
      omega
    exact ⟨hdigit.1, UInt32.le_iff_toNat_le.mpr hbound⟩
  all_goals
    have hvalue := Option.some.inj ha
    omega

theorem Quoting.string_plain (c : Char) : Quoting.string.plain c = true := rfl

theorem Quoting.string_unicode (n : Nat) : Quoting.string.unicode n = true := rfl

theorem Denotes.afterQuoted {body text : List Char} (h : Denotes body text) {fuel : Nat} (hfuel : body.length < fuel)
    (rest : List Char) : afterQuoted .string fuel (body ++ '\x22' :: rest) = some (skipSuffix rest) := by
  induction h generalizing fuel with
  | nil =>
    obtain ⟨fuel, rfl⟩ := Nat.exists_eq_succ_of_ne_zero (Nat.ne_of_gt hfuel)
    rfl
  | plain hquote hslash hreturn _ ih =>
    obtain ⟨fuel, rfl⟩ := Nat.exists_eq_succ_of_ne_zero (by omega : fuel ≠ 0)
    simp only [List.length_cons] at hfuel
    simp [Literal.afterQuoted, hquote, hslash, hreturn, Quoting.string_plain, @ih fuel (by omega)]
  | letter hletter _ ih =>
    obtain ⟨fuel, rfl⟩ := Nat.exists_eq_succ_of_ne_zero (by omega : fuel ≠ 0)
    simp only [List.length_cons] at hfuel
    have hrest := @ih fuel (by omega)
    simp only [escapeLetters, List.mem_cons, Prod.mk.injEq, List.not_mem_nil, or_false] at hletter
    rcases hletter with ⟨rfl, rfl⟩ | ⟨rfl, rfl⟩ | ⟨rfl, rfl⟩ | ⟨rfl, rfl⟩ | ⟨rfl, rfl⟩ | ⟨rfl, rfl⟩ | ⟨rfl, rfl⟩ <;>
      exact hrest
  | @hex a b m n body text ha hm hb _ ih =>
    obtain ⟨fuel, rfl⟩ := Nat.exists_eq_succ_of_ne_zero (by omega : fuel ≠ 0)
    simp only [List.length_cons] at hfuel
    have hhex : Quoting.string.hex a b = true := by
      obtain ⟨hlow, hhigh⟩ := octal_of_hexDigit? ha hm
      simp [Quoting.string, isHexDigit, hlow, hhigh, hb]
    simp [Literal.afterQuoted, hhex, @ih fuel (by omega)]
  | number hnumber hcount _ ih =>
    obtain ⟨fuel, rfl⟩ := Nat.exists_eq_succ_of_ne_zero (by omega : fuel ≠ 0)
    simp only [List.length_cons, List.length_append] at hfuel
    simp [Literal.afterQuoted, hnumber.unicodeEscape_char hcount, Quoting.string_unicode, @ih fuel (by omega)]

theorem Denotes.unquote {body text : List Char} (h : Denotes body text) {fuel : Nat} (hfuel : body.length < fuel)
    (rest : List Char) : Code.unquote fuel (body ++ '\x22' :: rest) = some (text, rest) := by
  induction h generalizing fuel with
  | nil =>
    obtain ⟨fuel, rfl⟩ := Nat.exists_eq_succ_of_ne_zero (Nat.ne_of_gt hfuel)
    rfl
  | plain hquote hslash hreturn _ ih =>
    obtain ⟨fuel, rfl⟩ := Nat.exists_eq_succ_of_ne_zero (by omega : fuel ≠ 0)
    simp only [List.length_cons] at hfuel
    simp [Code.unquote, hquote, hslash, hreturn, @ih fuel (by omega)]
  | letter hletter _ ih =>
    obtain ⟨fuel, rfl⟩ := Nat.exists_eq_succ_of_ne_zero (by omega : fuel ≠ 0)
    simp only [List.length_cons] at hfuel
    have hrest := @ih fuel (by omega)
    simp only [escapeLetters, List.mem_cons, Prod.mk.injEq, List.not_mem_nil, or_false] at hletter
    rcases hletter with ⟨rfl, rfl⟩ | ⟨rfl, rfl⟩ | ⟨rfl, rfl⟩ | ⟨rfl, rfl⟩ | ⟨rfl, rfl⟩ | ⟨rfl, rfl⟩ | ⟨rfl, rfl⟩ <;>
      simp [Code.unquote, escapeLetter, hrest]
  | hex ha _ hb _ ih =>
    obtain ⟨fuel, rfl⟩ := Nat.exists_eq_succ_of_ne_zero (by omega : fuel ≠ 0)
    simp only [List.length_cons] at hfuel
    simp [Code.unquote, ha, hb, @ih fuel (by omega)]
  | number hnumber hcount _ ih =>
    obtain ⟨fuel, rfl⟩ := Nat.exists_eq_succ_of_ne_zero (by omega : fuel ≠ 0)
    simp only [List.length_cons, List.length_append] at hfuel
    simp [Code.unquote, hnumber.unicodeEscape_char hcount, @ih fuel (by omega)]

theorem IsStringLiteral.stringValue? {written text : String} (h : IsStringLiteral written text) :
    Code.stringValue? written = some ⟨text, ""⟩ := by
  obtain ⟨body, hwritten, hbody⟩ := h
  have hfuel : body.length < (body ++ ['\x22']).length + 1 := by
    rw [List.length_append]
    omega
  simp only [Code.stringValue?, hwritten, List.cons_append, hbody.unquote hfuel [], Option.map_some,
    String.ofList_toList]

theorem IsStringLiteral.unique {written text text' : String} (h : IsStringLiteral written text)
    (h' : IsStringLiteral written text') : text = text' := by
  have heq := h.stringValue?.symm.trans h'.stringValue?
  simpa using heq

theorem hexDigit?_digitChar {d : Nat} (h : d < 16) : hexDigit? (Nat.digitChar d) = some d := by
  revert d
  decide

theorem hexNumeral_toDigits (n : Nat) : HexNumeral (Nat.toDigits 16 n) (Nat.toDigits 16 n).length n := by
  induction n using Nat.strongRecOn with
  | ind n ih =>
    rw [Nat.toDigits_eq_if (by decide)]
    by_cases hsmall : n < 16
    · rw [if_pos hsmall]
      exact .first (hexDigit?_digitChar hsmall)
    · have hrest : HexNumeral (Nat.toDigits 16 (n / 16)) _ (n / 16) := ih (n / 16) (by omega)
      have hlast : hexDigit? (Nat.digitChar (n % 16)) = some (n % 16) :=
        hexDigit?_digitChar (Nat.mod_lt n (by decide))
      rw [if_neg hsmall, List.length_append, List.length_singleton]
      simpa only [Nat.div_add_mod] using hrest.digit hlast

theorem length_toDigits_char (c : Char) : (Nat.toDigits 16 c.toNat).length ≤ 6 := by
  rw [Nat.length_toDigits_le_iff (by decide) (by decide)]
  have hvalid : c.toNat < 0xd800 ∨ (0xdfff < c.toNat ∧ c.toNat < 0x110000) := c.valid
  omega

theorem denotes_escape {body text : List Char} (h : Denotes body text) (c : Char) :
    Denotes (Quoted.escape c ++ body) (c :: text) := by
  unfold Quoted.escape Quoted.numbered
  split_ifs with hnul htab hreturn hfeed hmark hnumbered
  · subst hnul
    exact .letter (by decide) h
  · subst htab
    exact .letter (by decide) h
  · subst hreturn
    exact .letter (by decide) h
  · subst hfeed
    exact .letter (by decide) h
  · simp only [Bool.or_eq_true, decide_eq_true_eq] at hmark
    rcases hmark with rfl | rfl
    · exact .letter (by decide) h
    · exact .letter (by decide) h
  · simpa using Denotes.number (hexNumeral_toDigits c.toNat) (length_toDigits_char c) h
  · simp only [Bool.or_eq_true, decide_eq_true_eq, not_or] at hmark
    exact .plain hmark.1 hmark.2 hreturn h

theorem denotes_encoded (cs : List Char) : Denotes (cs.flatMap Quoted.escape) cs := by
  induction cs with
  | nil => exact .nil
  | cons c cs ih => exact denotes_escape ih c

theorem denotes_literalBody (cs : List Char) : Denotes (Quoted.literalBody cs) cs := by
  induction cs with
  | nil => exact .nil
  | cons c cs ih =>
    rw [Quoted.literalBody]
    cases cs with
    | nil => exact denotes_escape ih c
    | cons d rest =>
      rw [Quoted.escapeBefore]
      split_ifs with hjoins
      · obtain rfl : c = '\x00' := by simp_all
        exact .hex (m := 0) (n := 0) (by decide) (by decide) (by decide) ih
      · exact denotes_escape ih c

theorem isStringLiteral_text (s : String) : IsStringLiteral (Quoted.text s) s :=
  ⟨s.toList.flatMap Quoted.escape, by simp [Quoted.text, Quoted.encode], denotes_encoded s.toList⟩

theorem isStringLiteral_literal (s : String) : IsStringLiteral (String.ofList (Quoted.literal s.toList)) s :=
  ⟨Quoted.literalBody s.toList, by simp [Quoted.literal], denotes_literalBody s.toList⟩

theorem exists_digitChar_of_mem_toDigits {n : Nat} {c : Char} (h : c ∈ Nat.toDigits 16 n) :
    ∃ d < 16, c = Nat.digitChar d := by
  induction n using Nat.strongRecOn with
  | ind n ih =>
    rw [Nat.toDigits_eq_if (by decide)] at h
    by_cases hsmall : n < 16
    · rw [if_pos hsmall, List.mem_singleton] at h
      exact ⟨n, hsmall, h⟩
    · rw [if_neg hsmall, List.mem_append, List.mem_singleton] at h
      rcases h with h | h
      · exact ih (n / 16) (by omega) h
      · exact ⟨n % 16, by omega, h⟩

theorem isPrintable_of_mem {cs : List Char} (h : (cs.all fun c => 32 ≤ c.toNat && c.toNat < 127) = true) :
    ∀ c ∈ cs, isPrintable c = true := by
  intro c hc
  simp [isPrintable, List.all_eq_true.mp h c hc]

theorem isPrintable_of_mem_escape (c : Char) : ∀ d ∈ Quoted.escape c, isPrintable d = true := by
  unfold Quoted.escape
  split_ifs with hnul htab hreturn hfeed hmark hnumbered
  · exact isPrintable_of_mem (by decide)
  · exact isPrintable_of_mem (by decide)
  · exact isPrintable_of_mem (by decide)
  · exact isPrintable_of_mem (by decide)
  · simp only [Bool.or_eq_true, decide_eq_true_eq] at hmark
    rcases hmark with rfl | rfl <;> exact isPrintable_of_mem (by decide)
  · have hdigits : ∀ d ∈ (List.range 16).map Nat.digitChar, isPrintable d = true := isPrintable_of_mem (by decide)
    refine List.forall_mem_append.mpr ⟨List.forall_mem_append.mpr ⟨isPrintable_of_mem (by decide), ?_⟩,
      isPrintable_of_mem (by decide)⟩
    intro d hd
    obtain ⟨digit, hdigit, rfl⟩ := exists_digitChar_of_mem_toDigits hd
    exact hdigits _ (List.mem_map_of_mem (List.mem_range.mpr hdigit))
  · simp only [Bool.or_eq_true, Bool.not_eq_true', not_or, Bool.not_eq_false] at hnumbered
    simpa using hnumbered.2

theorem isPrintable_of_mem_text {s : String} {c : Char} (h : c ∈ (Quoted.text s).toList) : isPrintable c = true := by
  simp only [Quoted.text, String.toList_ofList, Quoted.encode, List.cons_append, List.mem_cons, List.mem_append,
    List.mem_flatMap, List.not_mem_nil, or_false] at h
  have hquote : isPrintable '\x22' = true := isPrintable_of_mem (by decide) _ (List.mem_singleton_self _)
  rcases h with rfl | ⟨d, _, hd⟩ | rfl
  · exact hquote
  · exact isPrintable_of_mem_escape d c hd
  · exact hquote

end Literal

theorem stringValue?_literal (s : String) : stringValue? (String.ofList (Quoted.literal s.toList)) = some ⟨s, ""⟩ :=
  (Literal.isStringLiteral_literal s).stringValue?

end HostBinder.Code

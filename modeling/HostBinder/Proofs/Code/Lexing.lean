import HostBinder.Code.Lexer
import HostBinder.Proofs.Code.Quotation

set_option autoImplicit false

namespace HostBinder.Code

theorem lex?_eq_lexFrom {s : String} (h : s.toList.head? ≠ some '\ufeff') :
    lex? s = Lexer.lexFrom (s.toList.length + 1) s.toList [] [] := by
  unfold lex?
  split
  · rename_i heq
    rw [heq] at h
    exact absurd rfl h
  · rfl

namespace Lexer

variable {rest : List Char} {done : Tokens} {outer : List (Delimiter × Tokens)} {fuel : Nat}

theorem leaf?_of_isStringLiteral {written text : String} (h : Literal.IsStringLiteral written text)
    (hrest : Literal.skipSuffix rest = rest) : leaf? (written.toList ++ rest) = some (.literal written, rest) := by
  obtain ⟨body, hwritten, hbody⟩ := h
  have hchars : written.toList ++ rest = '\x22' :: (body ++ '\x22' :: rest) := by simp [hwritten]
  have hfuel : body.length < (body ++ '\x22' :: rest).length + 1 := by
    rw [List.length_append]
    omega
  have hquoted : Literal.quoted .string (body ++ '\x22' :: rest) = some rest := by
    rw [Literal.quoted, hbody.afterQuoted hfuel, hrest]
  have hafter : Literal.after? (written.toList ++ rest) = some rest := by
    rw [hchars]
    simp [Literal.after?, hquoted]
  rw [leaf?, hafter]
  simp

theorem lexFrom_literal {written text : String} (h : Literal.IsStringLiteral written text)
    (hrest : Literal.skipSuffix rest = rest) :
    lexFrom (fuel + 1) (written.toList ++ rest) done outer = lexFrom fuel rest (.literal written :: done) outer := by
  have hleaf := leaf?_of_isStringLiteral h hrest
  obtain ⟨body, hwritten, _⟩ := h
  obtain ⟨cs, hcs⟩ : ∃ cs, written.toList ++ rest = '\x22' :: cs := ⟨body ++ '\x22' :: rest, by simp [hwritten]⟩
  have hblank : dropBlank? ('\x22' :: cs) = none := rfl
  have hdoc : docComment? ('\x22' :: cs) = none := rfl
  rw [hcs] at hleaf ⊢
  simp only [lexFrom, hblank, hdoc, hleaf]
  rfl

end Lexer

end HostBinder.Code

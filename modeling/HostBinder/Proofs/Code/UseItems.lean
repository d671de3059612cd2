import HostBinder.Proofs.Code.Identifiers
import HostBinder.Proofs.Text.LastSegment

set_option autoImplicit false

namespace HostBinder.Code

open HostBinder.Text

structure UseItem where
  segments : List Ident
  alias? : Option Ident
  deriving DecidableEq

namespace UseItem

def bound? (item : UseItem) : Option Ident := item.alias? <|> item.segments.getLast?

def path (item : UseItem) : String :=
  String.ofList (List.intercalate [':', ':'] (item.segments.map fun i => i.text.toList))

/-- The item from the first segment of its path on. -/
def ofTree? : Tokens → Option UseItem
  | [.ident i, .mark ';' _] => some ⟨[i], none⟩
  | [.ident i, .ident w, .ident n, .mark ';' _] => if w = ⟨"as", false⟩ then some ⟨[i], some n⟩ else none
  | .ident i :: .mark ':' true :: .mark ':' _ :: rest => (ofTree? rest).map fun item => ⟨i :: item.segments, item.alias?⟩
  | _ => none

def ofTokens? : Tokens → Option UseItem
  | .ident w :: .mark ':' true :: .mark ':' _ :: rest => if w = ⟨"use", false⟩ then ofTree? rest else none
  | _ => none

end UseItem

/-- The text of a path, given by its last segment and those in front of it. -/
def pathChars : List Ident → Ident → List Char
  | [], last => last.text.toList
  | i :: front, last => i.text.toList ++ ':' :: ':' :: pathChars front last

def pathTokens : List Ident → Ident → Tokens
  | [], last => [.ident last]
  | i :: front, last => .ident i :: .mark ':' true :: .mark ':' false :: pathTokens front last

section Paths

variable {front : List Ident} {last : Ident}

theorem IsPlainPath.exists_pathChars {allowed : Ident → Prop} {cs : List Char} (h : IsPlainPath allowed cs) :
    ∃ front last, cs = pathChars front last ∧
      ∀ i ∈ front ++ [last], allowed i ∧ isIdentText i.name.toList = true := by
  induction h with
  | @single i hallowed htext => exact ⟨[], i, rfl, by simp [hallowed, htext]⟩
  | @cons i cs hallowed htext _ ih =>
    obtain ⟨front, last, rfl, hsegments⟩ := ih
    exact ⟨i :: front, last, rfl, List.forall_mem_cons.mpr ⟨⟨hallowed, htext⟩, hsegments⟩⟩

theorem pathChars_eq_intercalate (front : List Ident) (last : Ident) :
    pathChars front last = List.intercalate [':', ':'] ((front ++ [last]).map fun i => i.text.toList) := by
  induction front with
  | nil => simp [pathChars]
  | cons i front ih =>
    have hnil : (front ++ [last]).map (fun i => i.text.toList) ≠ [] := by simp
    rw [List.cons_append, List.map_cons, List.intercalate_cons_of_ne_nil hnil, ← ih, pathChars]
    simp

theorem Ident.colon_not_mem_text {i : Ident} (h : isIdentText i.name.toList = true) : ':' ∉ i.text.toList := by
  have hname : ':' ∉ i.name.toList := by
    intro hmem
    have hcolon := all_isIdentRest_of_isIdentText h ':' hmem
    revert hcolon
    decide
  unfold Ident.text
  split <;> simp [hname]

theorem exists_pathChars_eq_append (hfront : front ≠ []) :
    ∃ cs, pathChars front last = cs ++ ':' :: ':' :: last.text.toList := by
  induction front with
  | nil => exact absurd rfl hfront
  | cons i front ih =>
    cases front with
    | nil => exact ⟨i.text.toList, rfl⟩
    | cons j front =>
      obtain ⟨cs, hcs⟩ := ih (List.cons_ne_nil j front)
      exact ⟨i.text.toList ++ ':' :: ':' :: cs, by rw [pathChars, hcs]; simp⟩

theorem lastSegment_of_pathChars {path : String} (hpath : path.toList = pathChars front last)
    (hlast : isIdentText last.name.toList = true) : lastSegment path = last.text := by
  by_cases hfront : front = []
  · subst hfront
    obtain rfl : path = last.text := String.toList_injective hpath
    exact lastSegment_eq_self (Ident.colon_not_mem_text hlast)
  · obtain ⟨cs, hcs⟩ := (exists_pathChars_eq_append hfront : ∃ cs, pathChars front last = _)
    have hparts : path = String.ofList cs ++ "::" ++ last.text := by
      refine String.toList_injective ?_
      rw [hpath, hcs]
      simp
    rw [hparts]
    exact lastSegment_append (Ident.colon_not_mem_text hlast)

theorem UseItem.ofTree?_pathTokens (front : List Ident) (last : Ident) (rest : Tokens) :
    ofTree? (pathTokens front last ++ rest) =
      (ofTree? (.ident last :: rest)).map fun item => ⟨front ++ item.segments, item.alias?⟩ := by
  induction front with
  | nil => simp [pathTokens]
  | cons i front ih =>
    rw [pathTokens, List.cons_append, List.cons_append, List.cons_append, ofTree?, ih, Option.map_map]
    rfl

end Paths

namespace Lexer

variable {c : Char} {rest : List Char} {done : Tokens} {outer : List (Delimiter × Tokens)} {fuel : Nat} {i : Ident}
  {front : List Ident} {last : Ident}

theorem lexFrom_ident (h : i.IsToken) (hrest : EndsWord rest) :
    lexFrom (fuel + 1) (i.text.toList ++ rest) done outer = lexFrom fuel rest (.ident i :: done) outer := by
  obtain ⟨c, cs, hcs, hstart⟩ := Ident.exists_isIdentStart_text h.text
  have hleaf := leaf?_append h hrest
  obtain ⟨hspace, hslash, _⟩ := Ident.nothingDropped_text h.text c (by rw [hcs]; exact List.mem_cons_self)
  rw [hcs, List.cons_append] at hleaf ⊢
  have hblank : dropBlank? (c :: (cs ++ rest)) = none := by
    unfold dropBlank?
    split <;> simp_all
  have hdoc : docComment? (c :: (cs ++ rest)) = none := by
    unfold docComment?
    split <;> simp_all
  rw [lexFrom, hblank, hdoc]
  simp only [opening?_eq_none hstart, closing?_eq_none hstart, hleaf]

theorem lexFrom_colons :
    lexFrom (fuel + 2) (':' :: ':' :: rest) done outer =
      lexFrom fuel rest (.mark ':' (startsWithMark rest) :: .mark ':' true :: done) outer := rfl

theorem lexFrom_use :
    lexFrom (fuel + 4) ("use ::".toList ++ rest) done outer =
      lexFrom fuel rest (.mark ':' (startsWithMark rest) :: .mark ':' true :: word "use" :: done) outer := rfl

theorem lexFrom_as :
    lexFrom (fuel + 3) (" as ".toList ++ rest) done outer = lexFrom fuel rest (word "as" :: done) outer := rfl

theorem lexFrom_end : lexFrom (fuel + 3) ";\n".toList done [] = some (done.reverse ++ [.mark ';' false]) := by
  have hend : lexFrom (fuel + 3) ";\n".toList done [] = some (.mark ';' false :: done).reverse := rfl
  rw [hend, List.reverse_cons]

theorem endsWord_colons : EndsWord (':' :: rest) := by
  intro d hd
  obtain rfl := Option.some.inj hd
  decide

theorem endsWord_as : EndsWord (" as ".toList ++ rest) := by
  intro d hd
  obtain rfl := Option.some.inj hd
  decide

theorem endsWord_end : EndsWord ";\n".toList := by
  intro d hd
  obtain rfl := Option.some.inj hd
  decide

theorem exists_pathChars_eq_cons (h : ∀ i ∈ front ++ [last], i.IsToken) :
    ∃ c cs, pathChars front last = c :: cs ∧ isIdentStart c = true := by
  cases front with
  | nil => exact Ident.exists_isIdentStart_text (h last List.mem_cons_self).text
  | cons i front =>
    obtain ⟨c, cs, hcs, hstart⟩ := Ident.exists_isIdentStart_text (h i List.mem_cons_self).text
    exact ⟨c, _, by rw [pathChars, hcs]; rfl, hstart⟩

theorem lexFrom_pathChars (h : ∀ i ∈ front ++ [last], i.IsToken) (hrest : EndsWord rest) :
    lexFrom (fuel + (3 * front.length + 1)) (pathChars front last ++ rest) done outer =
      lexFrom fuel rest ((pathTokens front last).reverse ++ done) outer := by
  induction front generalizing done with
  | nil => exact lexFrom_ident (h last List.mem_cons_self) hrest
  | cons i front ih =>
    obtain ⟨hi, hfront⟩ := List.forall_mem_cons.mp h
    obtain ⟨c, cs, hcs, hstart⟩ := exists_pathChars_eq_cons hfront
    have hmark : startsWithMark (pathChars front last ++ rest) = false := by
      rw [hcs, List.cons_append, startsWithMark_eq_false hstart]
    have hfuel : fuel + (3 * (i :: front).length + 1) = fuel + (3 * front.length + 1) + 2 + 1 := by
      rw [List.length_cons]
      omega
    rw [hfuel, pathChars, List.append_assoc, List.cons_append, List.cons_append, lexFrom_ident hi endsWord_colons,
      lexFrom_colons, hmark, ih hfront, pathTokens]
    simp

theorem length_le_pathChars (h : ∀ i ∈ front ++ [last], i.IsToken) :
    3 * front.length + 1 ≤ (pathChars front last).length := by
  induction front with
  | nil =>
    obtain ⟨c, cs, hcs, _⟩ := exists_pathChars_eq_cons h
    simp [hcs]
  | cons i front ih =>
    obtain ⟨hi, hfront⟩ := List.forall_mem_cons.mp h
    obtain ⟨c, cs, hcs, _⟩ := Ident.exists_isIdentStart_text hi.text
    have hlength := ih hfront
    simp only [pathChars, hcs, List.length_append, List.length_cons]
    omega

end Lexer

section Lines

variable {path name : String} {front : List Ident} {last n : Ident}

theorem lex?_use (hpath : path.toList = pathChars front last) (h : ∀ i ∈ front ++ [last], i.IsToken) :
    lex? ("use ::" ++ path ++ ";\n") =
      some (word "use" :: .mark ':' true :: .mark ':' false :: pathTokens front last ++ [.mark ';' false]) := by
  have hchars : ("use ::" ++ path ++ ";\n").toList = "use ::".toList ++ (pathChars front last ++ ";\n".toList) := by
    rw [String.toList_append, String.toList_append, hpath, List.append_assoc]
  obtain ⟨c, cs, hcs, hstart⟩ := Lexer.exists_pathChars_eq_cons h
  have hmark : Lexer.startsWithMark (pathChars front last ++ ";\n".toList) = false := by
    rw [hcs, List.cons_append, Lexer.startsWithMark_eq_false hstart]
  have hlength := Lexer.length_le_pathChars h
  obtain ⟨fuel, hfuel⟩ : ∃ fuel, ("use ::" ++ path ++ ";\n").toList.length + 1 =
      fuel + 3 + (3 * front.length + 1) + 4 := by
    refine ⟨(pathChars front last).length - (3 * front.length + 1) + 2, ?_⟩
    have hlengths : "use ::".toList.length = 6 ∧ ";\n".toList.length = 2 := by decide
    rw [hchars, List.length_append, List.length_append, hlengths.1, hlengths.2]
    omega
  have hfirst : ("use ::" ++ path ++ ";\n").toList.head? ≠ some '\ufeff' := by
    rw [hchars]
    exact fun hhead => absurd (Option.some.inj hhead) (by decide)
  rw [lex?_eq_lexFrom hfirst, hfuel, hchars, Lexer.lexFrom_use, hmark,
    Lexer.lexFrom_pathChars h Lexer.endsWord_end, Lexer.lexFrom_end]
  simp

theorem lex?_use_as (hpath : path.toList = pathChars front last) (h : ∀ i ∈ front ++ [last], i.IsToken)
    (hname : name = n.text) (hn : n.IsToken) :
    lex? ("use ::" ++ path ++ " as " ++ name ++ ";\n") =
      some (word "use" :: .mark ':' true :: .mark ':' false :: pathTokens front last ++
        [word "as", .ident n, .mark ';' false]) := by
  have hchars : ("use ::" ++ path ++ " as " ++ name ++ ";\n").toList =
      "use ::".toList ++ (pathChars front last ++ (" as ".toList ++ (n.text.toList ++ ";\n".toList))) := by
    simp only [String.toList_append, hpath, hname, List.append_assoc]
  obtain ⟨c, cs, hcs, hstart⟩ := Lexer.exists_pathChars_eq_cons h
  have hmark : Lexer.startsWithMark
      (pathChars front last ++ (" as ".toList ++ (n.text.toList ++ ";\n".toList))) = false := by
    rw [hcs, List.cons_append, Lexer.startsWithMark_eq_false hstart]
  have hlength := Lexer.length_le_pathChars h
  obtain ⟨fuel, hfuel⟩ : ∃ fuel, ("use ::" ++ path ++ " as " ++ name ++ ";\n").toList.length + 1 =
      fuel + 3 + 1 + 3 + (3 * front.length + 1) + 4 := by
    refine ⟨(pathChars front last).length - (3 * front.length + 1) + n.text.toList.length + 2, ?_⟩
    have hlengths : "use ::".toList.length = 6 ∧ " as ".toList.length = 4 ∧ ";\n".toList.length = 2 := by decide
    rw [hchars, List.length_append, List.length_append, List.length_append, List.length_append, hlengths.1,
      hlengths.2.1, hlengths.2.2]
    omega
  have hfirst : ("use ::" ++ path ++ " as " ++ name ++ ";\n").toList.head? ≠ some '\ufeff' := by
    rw [hchars]
    exact fun hhead => absurd (Option.some.inj hhead) (by decide)
  rw [lex?_eq_lexFrom hfirst, hfuel, hchars, Lexer.lexFrom_use, hmark,
    Lexer.lexFrom_pathChars h Lexer.endsWord_as, Lexer.lexFrom_as, Lexer.lexFrom_ident hn Lexer.endsWord_end,
    Lexer.lexFrom_end]
  simp

theorem useItem?_use (hpath : path.toList = pathChars front last) (h : ∀ i ∈ front ++ [last], i.IsToken) :
    (lex? ("use ::" ++ path ++ ";\n")).bind UseItem.ofTokens? = some ⟨front ++ [last], none⟩ := by
  rw [lex?_use hpath h, Option.bind_some, List.cons_append, List.cons_append, List.cons_append, word,
    UseItem.ofTokens?, if_pos rfl, UseItem.ofTree?_pathTokens]
  rfl

theorem useItem?_use_as (hpath : path.toList = pathChars front last) (h : ∀ i ∈ front ++ [last], i.IsToken)
    (hname : name = n.text) (hn : n.IsToken) :
    (lex? ("use ::" ++ path ++ " as " ++ name ++ ";\n")).bind UseItem.ofTokens? = some ⟨front ++ [last], some n⟩ := by
  rw [lex?_use_as hpath h hname hn, Option.bind_some, List.cons_append, List.cons_append, List.cons_append, word,
    UseItem.ofTokens?, if_pos rfl, UseItem.ofTree?_pathTokens]
  rfl

end Lines

end HostBinder.Code

import HostBinder.Binder.Publication
import HostBinder.Proofs.Code.Lexing
import HostBinder.Proofs.Text.Lines

set_option autoImplicit false

namespace HostBinder.Code.Lexer

variable {rest : List Char} {done before inner : Tokens} {outer : List (Delimiter × Tokens)} {fuel : Nat}

theorem lexFrom_header :
    lexFrom (fuel + 2) ("// @generated by viewbind\n".toList ++ rest) done outer = lexFrom fuel rest done outer := rfl

theorem lexFrom_include_opens :
    lexFrom (fuel + 3) ("include!(".toList ++ rest) done outer =
      lexFrom fuel rest [] ((.paren, .mark '!' false :: word "include" :: done) :: outer) := rfl

theorem lexFrom_include_closes :
    lexFrom (fuel + 3) (");\n".toList ++ rest) inner ((.paren, before) :: outer) =
      lexFrom fuel rest (.mark ';' false :: parens inner.reverse :: before) outer := rfl

end HostBinder.Code.Lexer

namespace HostBinder

open Code Text

def includeTokens (path : String) : Tokens :=
  [word "include", .mark '!' false, parens [.literal (Quoted.text path)], .mark ';' false]

def includedPaths? : Tokens → Option (List String)
  | [] => some []
  | .ident i :: .mark '!' _ :: .group .paren [.literal written] :: .mark ';' _ :: rest =>
    if i = ⟨"include", false⟩ then
      (stringValue? written).bind fun value =>
        if value.suffix = "" then (includedPaths? rest).map (value.text :: ·) else none
    else none
  | _ => none

/-- A line that includes the file at a path, by a literal that stays on the line and denotes the path only. -/
def IncludesPath (line path : String) : Prop :=
  ∃ literal, line = "include!(" ++ literal ++ ");" ∧ (∀ c ∈ literal.toList, isPrintable c = true) ∧
    ∀ text, Literal.IsStringLiteral literal text ↔ text = path

/-- An index of the files at the given paths has its header and one line for each path, in turn, and read as source code
it includes these paths and nothing else. -/
structure IsIndexOf (text : String) (paths : List String) : Prop where
  read : (lex? text).bind includedPaths? = some paths
  lines : ∃ ls, text = unlines ("// @generated by viewbind" :: ls) ∧
    Text.lines text = "// @generated by viewbind" :: ls ∧ List.Forall₂ IncludesPath ls paths

theorem IsIndexOf.unique {text : String} {paths others : List String} (h : IsIndexOf text paths)
    (h' : IsIndexOf text others) : paths = others :=
  Option.some.inj (h.read.symm.trans h'.read)

def includeText (path : String) : String := "include!(" ++ Quoted.text path ++ ");"

theorem indexText_eq_append (paths : List String) :
    indexText paths = "// @generated by viewbind\n" ++ String.join (paths.map includeLine) := rfl

theorem indexText_eq_unlines (paths : List String) :
    indexText paths = unlines ("// @generated by viewbind" :: paths.map includeText) := by
  have hheader : "// @generated by viewbind\n" = "// @generated by viewbind" ++ "\n" := by decide
  have hend : ");\n" = ");" ++ "\n" := by decide
  have hlines : (paths.map includeText).map (· ++ "\n") = paths.map includeLine := by
    rw [List.map_map]
    refine List.map_congr_left fun path _ => ?_
    simp only [Function.comp, includeText, includeLine, hend, String.append_assoc]
  rw [indexText_eq_append, unlines, List.map_cons, String.join_cons, hlines, hheader]

theorem isOneLine_includeText (path : String) : IsOneLine (includeText path) := by
  have hliteral : IsOneLine (Quoted.text path) := by
    intro hmem
    have hfeed : isPrintable '\n' = false := by decide
    exact absurd (Literal.isPrintable_of_mem_text hmem) (by simp [hfeed])
  exact isOneLine_append.mpr ⟨isOneLine_append.mpr ⟨by decide, hliteral⟩, by decide⟩

theorem lines_indexText (paths : List String) :
    lines (indexText paths) = "// @generated by viewbind" :: paths.map includeText := by
  rw [indexText_eq_unlines, lines_unlines_eq_self_iff]
  · exact List.forall_mem_cons.mpr ⟨by decide, List.forall_mem_map.mpr fun path _ => isOneLine_includeText path⟩
  · refine List.forall_mem_cons.mpr ⟨by decide, List.forall_mem_map.mpr fun path _ => ?_⟩
    exact not_endsInReturn_append (by decide) (by decide)

theorem includesPath_includeText (path : String) : IncludesPath (includeText path) path := by
  refine ⟨Quoted.text path, rfl, fun c => Literal.isPrintable_of_mem_text, fun text => ?_⟩
  constructor
  · intro h
    exact h.unique (Literal.isStringLiteral_text path)
  · rintro rfl
    exact Literal.isStringLiteral_text text

theorem lexFrom_includeLine (path : String) (fuel : Nat) (rest : List Char) (done : Tokens) :
    Lexer.lexFrom (fuel + 7) ((includeLine path).toList ++ rest) done [] =
      Lexer.lexFrom fuel rest ((includeTokens path).reverse ++ done) [] := by
  have hchars : (includeLine path).toList ++ rest =
      "include!(".toList ++ ((Quoted.text path).toList ++ (");\n".toList ++ rest)) := by
    simp only [includeLine, String.toList_append, List.append_assoc]
  rw [hchars, Lexer.lexFrom_include_opens, Lexer.lexFrom_literal (Literal.isStringLiteral_text path) rfl,
    Lexer.lexFrom_include_closes]
  rfl

theorem lexFrom_includeLines (paths : List String) {fuel : Nat} (hfuel : 7 * paths.length < fuel) (done : Tokens) :
    Lexer.lexFrom fuel (paths.flatMap fun path => (includeLine path).toList) done [] =
      some (done.reverse ++ paths.flatMap includeTokens) := by
  induction paths generalizing fuel done with
  | nil =>
    obtain ⟨fuel, rfl⟩ := Nat.exists_eq_succ_of_ne_zero (Nat.ne_of_gt hfuel)
    rw [List.flatMap_nil, List.flatMap_nil, List.append_nil]
    rfl
  | cons path paths ih =>
    rw [List.length_cons] at hfuel
    obtain ⟨fuel, rfl⟩ : ∃ n, fuel = n + 7 := ⟨fuel - 7, by omega⟩
    rw [List.flatMap_cons, lexFrom_includeLine, ih (by omega), List.flatMap_cons, List.reverse_append,
      List.reverse_reverse, List.append_assoc]

theorem toList_indexText (paths : List String) :
    (indexText paths).toList =
      "// @generated by viewbind\n".toList ++ paths.flatMap fun path => (includeLine path).toList := by
  rw [indexText_eq_append, String.toList_append, String.toList_join, List.flatMap_map]

theorem length_le_includeLines (paths : List String) :
    7 * paths.length ≤ (paths.flatMap fun path => (includeLine path).toList).length := by
  induction paths with
  | nil => simp
  | cons path paths ih =>
    have hline : 7 ≤ (includeLine path).toList.length := by
      simp only [includeLine, String.toList_append, List.length_append]
      have hopen : "include!(".toList.length = 9 := by decide
      omega
    rw [List.flatMap_cons, List.length_append, List.length_cons]
    omega

theorem lex?_indexText (paths : List String) : lex? (indexText paths) = some (paths.flatMap includeTokens) := by
  have hbom : (indexText paths).toList.head? ≠ some '\ufeff' := by
    rw [toList_indexText, List.head?_append_of_ne_nil _ (by decide)]
    decide
  have hfuel : (indexText paths).toList.length + 1 =
      (paths.flatMap fun path => (includeLine path).toList).length + 25 + 2 := by
    have hheader : "// @generated by viewbind\n".toList.length = 26 := by decide
    rw [toList_indexText, List.length_append, hheader]
    omega
  have hlength := length_le_includeLines paths
  rw [lex?_eq_lexFrom hbom, hfuel, toList_indexText, Lexer.lexFrom_header]
  exact lexFrom_includeLines paths (by omega) []

theorem includedPaths?_append (path : String) (rest : Tokens) :
    includedPaths? (includeTokens path ++ rest) = (includedPaths? rest).map (path :: ·) := by
  have hvalue := (Literal.isStringLiteral_text path).stringValue?
  simp [includeTokens, includedPaths?, word, parens, hvalue]

theorem includedPaths?_flatMap (paths : List String) : includedPaths? (paths.flatMap includeTokens) = some paths := by
  induction paths with
  | nil => rfl
  | cons path paths ih => rw [List.flatMap_cons, includedPaths?_append, ih, Option.map_some]

theorem isIndexOf_indexText (paths : List String) : IsIndexOf (indexText paths) paths where
  read := by rw [lex?_indexText, Option.bind_some, includedPaths?_flatMap]
  lines := by
    refine ⟨paths.map includeText, indexText_eq_unlines paths, lines_indexText paths, ?_⟩
    rw [List.forall₂_map_left_iff, List.forall₂_same]
    exact fun path _ => includesPath_includeText path

/-- An index has its header and then one line for each path, in order, which includes the file at this path and no
other; read as source code it names these paths, so that no two lists of paths share an index. -/
theorem indexText_tells_paths :
    Function.Injective indexText ∧
      ∀ paths, (lex? (indexText paths)).bind includedPaths? = some paths ∧
        ∃ ls, indexText paths = unlines ("// @generated by viewbind" :: ls) ∧
          lines (indexText paths) = "// @generated by viewbind" :: ls ∧ List.Forall₂ IncludesPath ls paths := by
  refine ⟨fun paths others heq => ?_, fun paths => ⟨(isIndexOf_indexText paths).read, (isIndexOf_indexText paths).lines⟩⟩
  have hothers := isIndexOf_indexText others
  rw [← heq] at hothers
  exact (isIndexOf_indexText paths).unique hothers

end HostBinder

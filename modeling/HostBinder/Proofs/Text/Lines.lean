import HostBinder.Files.Path
import HostBinder.Proofs.Text.Words
import HostBinder.Text.Segments
import Mathlib.Algebra.BigOperators.Group.List.Basic
import Mathlib.Algebra.Ring.Nat

set_option autoImplicit false

namespace HostBinder.Text

def IsOneLine (s : String) : Prop := '\n' ∉ s.toList

instance (s : String) : Decidable (IsOneLine s) := inferInstanceAs (Decidable ('\n' ∉ s.toList))

/-- A text whose last character would be read as part of the line's end. -/
def EndsInReturn (s : String) : Prop := s.toList.getLast? = some '\r'

instance (s : String) : Decidable (EndsInReturn s) := inferInstanceAs (Decidable (s.toList.getLast? = some '\r'))

/-- The lines that a text takes when it is printed. -/
def printedLines (s : String) : List String := lines (s ++ "\n")

@[simp] theorem isOneLine_append {s t : String} : IsOneLine (s ++ t) ↔ IsOneLine s ∧ IsOneLine t := by
  simp [IsOneLine]

theorem not_endsInReturn_append {s t : String} (ht : t ≠ "") (h : ¬EndsInReturn t) : ¬EndsInReturn (s ++ t) := by
  have hsome : t.toList ≠ [] := by simpa using ht
  rw [EndsInReturn] at h ⊢
  rwa [String.toList_append, List.getLast?_append_of_ne_nil _ hsome]

theorem isOneLine_repr (n : Nat) : IsOneLine n.repr := by
  have hdigits : n.repr.toList = Nat.toDigits 10 n := by simp
  rw [IsOneLine, hdigits]
  intro hmem
  have hdigit := Nat.isDigit_of_mem_toDigits (by decide) (by decide) hmem
  revert hdigit
  decide

section Lines

variable {cs : List Char} {c : Char}

theorem linesOf_lineFeed (cs : List Char) : linesOf ('\n' :: cs) = [] :: linesOf cs := by
  rw [linesOf, if_pos rfl]
  simp

theorem linesOf_eq_nil_iff : linesOf cs = [] ↔ cs = [] := by
  fun_cases linesOf cs <;> simp

theorem exists_linesOf (h : cs ≠ []) : ∃ l ls, linesOf cs = l :: ls :=
  List.exists_cons_of_ne_nil (mt linesOf_eq_nil_iff.mp h)

theorem linesOf_cons {l : List Char} {ls : List (List Char)} (hc : c ≠ '\n')
    (hend : c = '\r' → cs.head? ≠ some '\n') (hcs : linesOf cs = l :: ls) : linesOf (c :: cs) = (c :: l) :: ls := by
  rw [linesOf, if_neg hc, hcs]
  intro rest hreturn hfeed
  exact hend hreturn (by rw [hfeed]; rfl)

theorem linesOf_cons_append {ds l : List Char} {ls : List (List Char)} (hcs : cs ≠ []) (hc : c ≠ '\n')
    (hend : ∀ rest, c = '\r' → cs = '\n' :: rest → False) (hfirst : linesOf (cs ++ ds) = l :: ls) :
    linesOf (c :: cs ++ ds) = (c :: l) :: ls := by
  refine linesOf_cons hc (fun hreturn hfeed => ?_) hfirst
  obtain ⟨d, rest, rfl⟩ := List.exists_cons_of_ne_nil hcs
  obtain rfl : d = '\n' := by simpa using hfeed
  exact hend rest hreturn rfl

theorem lineFeed_not_mem_of_mem_linesOf {l : List Char} (hl : l ∈ linesOf cs) : '\n' ∉ l := by
  fun_induction linesOf cs generalizing l with
  | case1 => cases hl
  | case2 cs ih =>
    rcases List.mem_cons.mp hl with rfl | hl
    · exact List.not_mem_nil
    · exact ih hl
  | case3 cs _ ih =>
    rcases List.mem_cons.mp hl with rfl | hl
    · exact List.not_mem_nil
    · exact ih hl
  | case4 c cs _ hc first rest heq ih =>
    rw [heq] at ih
    rcases List.mem_cons.mp hl with rfl | hl
    · simpa [eq_comm, hc] using ih List.mem_cons_self
    · exact ih (List.mem_cons_of_mem _ hl)
  | case5 c cs _ hc =>
    obtain rfl := List.mem_singleton.mp hl
    simpa [eq_comm] using hc

/-- Texts are cut into lines at a line feed: what is behind it has no part in the lines before. -/
theorem linesOf_append_lineFeed (cs ds : List Char) :
    linesOf (cs ++ '\n' :: ds) = linesOf (cs ++ ['\n']) ++ linesOf ds := by
  induction cs using linesOf.induct with
  | case1 => rw [List.nil_append, List.nil_append, linesOf_lineFeed, linesOf_lineFeed, linesOf]; rfl
  | case2 cs ih => simp only [List.cons_append, linesOf, ih]
  | case3 cs _ ih => rw [List.cons_append, List.cons_append, linesOf_lineFeed, linesOf_lineFeed, ih]; rfl
  | case4 c cs hend hc _ _ heq ih =>
    have hcs : cs ≠ [] := mt linesOf_eq_nil_iff.mpr (by simp [heq])
    have hsome : cs ++ ['\n'] ≠ [] := by simp
    obtain ⟨l, ls, hfirst⟩ := exists_linesOf hsome
    rw [hfirst] at ih
    rw [linesOf_cons_append hcs hc hend ih, linesOf_cons_append hcs hc hend hfirst]
    rfl
  | case5 c cs _ hc heq =>
    obtain rfl := linesOf_eq_nil_iff.mp heq
    by_cases hreturn : c = '\r'
    · subst hreturn
      simp [linesOf]
    · simp [linesOf, hc, hreturn]

theorem length_linesOf_append_lineFeed (cs : List Char) :
    (linesOf (cs ++ ['\n'])).length = cs.count '\n' + 1 := by
  induction cs using linesOf.induct with
  | case1 => rfl
  | case2 cs ih => simp [linesOf, ih]
  | case3 cs _ ih => simp [linesOf_lineFeed, ih]
  | case4 c cs hend hc _ _ heq ih =>
    have hcs : cs ≠ [] := mt linesOf_eq_nil_iff.mpr (by simp [heq])
    have hsome : cs ++ ['\n'] ≠ [] := by simp
    obtain ⟨l, ls, hfirst⟩ := exists_linesOf hsome
    rw [hfirst] at ih
    rw [linesOf_cons_append hcs hc hend hfirst, List.count_cons_of_ne hc]
    exact ih
  | case5 c cs _ hc heq =>
    obtain rfl := linesOf_eq_nil_iff.mp heq
    by_cases hreturn : c = '\r'
    · subst hreturn
      rfl
    · simp [linesOf, hc, hreturn]

theorem linesOf_append_lineFeed_of_not_mem (hfeed : '\n' ∉ cs) (hreturn : cs.getLast? ≠ some '\r') :
    linesOf (cs ++ ['\n']) = [cs] := by
  induction cs with
  | nil => rfl
  | cons c cs ih =>
    obtain ⟨hc, hcs⟩ := not_or.mp (mt List.mem_cons.mpr hfeed)
    refine linesOf_cons (Ne.symm hc) ?_ (ih hcs ?_)
    · rintro rfl
      cases cs with
      | nil => simp at hreturn
      | cons d cs => simpa [eq_comm] using (not_or.mp (mt List.mem_cons.mpr hcs)).1
    · cases cs with
      | nil => simp
      | cons d cs => simpa using hreturn

end Lines

theorem isOneLine_of_mem_lines {s l : String} (hl : l ∈ lines s) : IsOneLine l := by
  obtain ⟨cs, hcs, rfl⟩ := List.mem_map.mp hl
  rw [IsOneLine, String.toList_ofList]
  exact lineFeed_not_mem_of_mem_linesOf hcs

theorem length_printedLines (s : String) : (printedLines s).length = s.toList.count '\n' + 1 := by
  rw [printedLines, lines, List.length_map, String.toList_append]
  exact length_linesOf_append_lineFeed s.toList

theorem printedLines_eq_singleton {s : String} (hline : IsOneLine s) (hreturn : ¬EndsInReturn s) :
    printedLines s = [s] := by
  have hlines : linesOf (s.toList ++ ['\n']) = [s.toList] := linesOf_append_lineFeed_of_not_mem hline hreturn
  rw [printedLines, lines, String.toList_append]
  simpa using congrArg (List.map String.ofList) hlines

theorem lines_unlines (ls : List String) : lines (unlines ls) = ls.flatMap printedLines := by
  induction ls with
  | nil => rfl
  | cons l ls ih =>
    have hchars : (unlines (l :: ls)).toList = l.toList ++ '\n' :: (unlines ls).toList := by
      simp [unlines, String.join_cons]
    rw [List.flatMap_cons, ← ih, lines, hchars, linesOf_append_lineFeed, List.map_append, printedLines, lines, lines,
      String.toList_append]
    rfl

theorem length_lines_unlines (ls : List String) :
    (lines (unlines ls)).length = ls.length + (ls.map fun l => l.toList.count '\n').sum := by
  rw [lines_unlines]
  induction ls with
  | nil => rfl
  | cons l ls ih =>
    rw [List.flatMap_cons, List.length_append, ih, length_printedLines, List.length_cons, List.map_cons, List.sum_cons]
    omega

theorem lines_unlines_eq_self_iff {ls : List String} (hreturn : ∀ l ∈ ls, ¬EndsInReturn l) :
    lines (unlines ls) = ls ↔ ∀ l ∈ ls, IsOneLine l := by
  constructor
  · intro heq l hl
    exact isOneLine_of_mem_lines (heq.symm ▸ hl)
  · intro hall
    rw [lines_unlines, List.flatMap_congr fun l hl => printedLines_eq_singleton (hall l hl) (hreturn l hl)]
    simp

theorem lineFeed_not_mem_lowerChar {c : Char} (hc : c ≠ '\n') : '\n' ∉ lowerChar c := by
  unfold lowerChar
  split
  · rename_i hascii
    have hlower : ∀ n < 128, n ≠ 10 → (Char.ofNat n).toLower ≠ '\n' := by decide
    have hnat : c.toNat ≠ 10 := fun heq => hc (Char.toNat_inj.mp heq)
    have hchar := hlower c.toNat hascii hnat
    rw [Char.ofNat_toNat] at hchar
    simpa using hchar.symm
  · exact not_mem_mapCase (by decide) (by decide +kernel) (by decide) hc

theorem lineFeed_not_mem_lowerAfter {cs : List Char} (h : '\n' ∉ cs) (before : List Char) :
    '\n' ∉ lowerAfter before cs := by
  induction cs generalizing before with
  | nil => exact List.not_mem_nil
  | cons c cs ih =>
    obtain ⟨hc, hcs⟩ := not_or.mp (mt List.mem_cons.mpr h)
    rw [lowerAfter, List.mem_append, not_or]
    refine ⟨?_, ih hcs _⟩
    split
    · split <;> decide
    · exact lineFeed_not_mem_lowerChar (Ne.symm hc)

theorem isOneLine_snakeCase {s : String} (h : IsOneLine s) : IsOneLine (snakeCase s) := by
  rw [IsOneLine, snakeCase, String.toList_ofList]
  intro hmem
  rcases mem_or_mem_of_mem_intercalate hmem with hmem | ⟨w, hw, hmem⟩
  · simp at hmem
  · obtain ⟨word, hword, rfl⟩ := List.mem_map.mp hw
    have hnone : '\n' ∉ word := fun hfeed => h (subset_of_mem_words hword hfeed)
    exact lineFeed_not_mem_lowerAfter hnone [] hmem

theorem lineFeed_not_mem_underscored {cs : List Char} (h : '\n' ∉ cs) : '\n' ∉ underscored cs := by
  fun_induction underscored cs with
  | case1 rest ih => simp_all
  | case2 c rest _ ih => simp_all
  | case3 => exact List.not_mem_nil

theorem isOneLine_joinPath {directory name : String} (hdirectory : IsOneLine directory) (hname : IsOneLine name) :
    IsOneLine (Files.joinPath directory name) := by
  unfold Files.joinPath
  split
  · exact hname
  · split
    · exact isOneLine_append.mpr ⟨hdirectory, hname⟩
    · exact isOneLine_append.mpr ⟨isOneLine_append.mpr ⟨hdirectory, by decide⟩, hname⟩

end HostBinder.Text

import HostBinder.Proofs.Text.Words

set_option autoImplicit false

/-!
What a name in capitals, with underscores between its words, tells about the name. Its letters up to case are always
kept. The words are kept too, up to case, if each underscore of the name stands between words; so a name whose words
all begin with their one capital can be read back.
-/

namespace HostBinder.Text

def separators : List Char := ['_', '-', ' ']

theorem isDelimiter_iff {cluster : List Char} : isDelimiter cluster = true ↔ ∃ d ∈ separators, cluster = [d] := by
  simp [isDelimiter, separators, or_assoc]

theorem forall_mem_separators {p : Char → Prop} : (∀ d ∈ separators, p d) ↔ p '_' ∧ p '-' ∧ p ' ' := by
  simp [separators]

theorem not_mem_upperChar {c d : Char} (hd : d ∈ separators) (hc : c ≠ d) : d ∉ upperChar c := by
  unfold upperChar
  split
  · rename_i hascii
    have hupper : ∀ d ∈ separators, ∀ n < 128, n ≠ d.toNat → (Char.ofNat n).toUpper ≠ d :=
      forall_mem_separators.mpr (by decide +kernel)
    have hchar := hupper d hd c.toNat hascii fun heq => hc (Char.toNat_inj.mp heq)
    rw [Char.ofNat_toNat] at hchar
    simpa using hchar.symm
  · have hzero : ∀ d ∈ separators, d ≠ '\x00' := forall_mem_separators.mpr (by decide)
    have hruns : ∀ d ∈ separators, ∀ run ∈ upperRuns,
        (d.toNat : Int) < run.1 + run.2.2.2 ∨ run.2.1 + run.2.2.2 < (d.toNat : Int) :=
      forall_mem_separators.mpr (by decide +kernel)
    have hexpansions : ∀ d ∈ separators, ∀ e ∈ upperExpansions, d.toNat ∉ e.2 :=
      forall_mem_separators.mpr (by decide +kernel)
    exact not_mem_mapCase (hzero d hd) (hruns d hd) (hexpansions d hd) hc

theorem upperChar_of_mem_separators {d : Char} (hd : d ∈ separators) : upperChar d = [d] := by
  have hall : ∀ d ∈ separators, upperChar d = [d] := forall_mem_separators.mpr (by decide)
  exact hall d hd

def letters (cs : List Char) : List Char := upperText (cs.filter (· ∉ separators))

theorem filter_upperText (cs : List Char) : (upperText cs).filter (· ∉ separators) = letters cs := by
  induction cs with
  | nil => rfl
  | cons c cs ih =>
    rw [letters, upperText] at ih ⊢
    rw [List.flatMap_cons, List.filter_append, ih]
    by_cases hc : c ∈ separators
    · rw [upperChar_of_mem_separators hc]
      simp [hc, upperText]
    · have hkept : (upperChar c).filter (· ∉ separators) = upperChar c := by
        rw [List.filter_eq_self]
        intro d hd
        rw [decide_eq_true_eq]
        intro hmem
        have hne : c ≠ d := by
          rintro rfl
          exact hc hmem
        exact not_mem_upperChar hmem hne hd
      rw [hkept]
      simp [hc, upperText]

theorem filter_intercalate {p : Char → Bool} {sep : List Char} (hsep : sep.filter p = []) (ws : List (List Char)) :
    (List.intercalate sep ws).filter p = ws.flatten.filter p := by
  induction ws with
  | nil => rfl
  | cons w ws ih =>
    cases ws with
    | nil => simp [List.intercalate_singleton]
    | cons w' ws =>
      rw [List.intercalate_cons_cons, List.filter_append, List.filter_append, ih, hsep, List.append_nil,
        ← List.filter_append, ← List.flatten_cons]

theorem filter_flatten_wordsFrom (word : List Char) (cs : List (List Char)) :
    (wordsFrom word cs).flatten.filter (· ∉ separators) = (word ++ cs.flatten).filter (· ∉ separators) := by
  fun_induction wordsFrom word cs with
  | case1 word => simp
  | case2 word a rest hdelimiter ih =>
    obtain ⟨d, hd, rfl⟩ := isDelimiter_iff.mp hdelimiter
    rw [List.flatten_cons, List.filter_append, ih, ← List.filter_append, List.flatten_cons, List.filter_append,
      List.filter_append, List.filter_append]
    simp [hd]
  | case3 word a rest _ _ ih =>
    rw [List.flatten_cons, List.filter_append, ih, List.nil_append, ← List.filter_append, List.flatten_cons,
      List.append_assoc]
  | case4 word a rest _ _ ih => rw [ih, List.flatten_cons, List.append_assoc]

theorem filter_flatten_words (cs : List Char) :
    (words cs).flatten.filter (· ∉ separators) = cs.filter (· ∉ separators) := by
  rw [words, filter_flatten_wordsFrom, List.nil_append, flatten_clusters]

def upperWords (cs : List Char) : List (List Char) := (words cs).map upperText

theorem upperSnakeCase_toList (s : String) :
    (upperSnakeCase s).toList = List.intercalate ['_'] (upperWords s.toList) := by
  rw [upperSnakeCase, String.toList_ofList, upperWords]

theorem flatten_upperWords (cs : List Char) : (upperWords cs).flatten = upperText (words cs).flatten := by
  rw [upperWords]
  induction words cs with
  | nil => rfl
  | cons w ws ih =>
    rw [List.map_cons, List.flatten_cons, List.flatten_cons, ih, upperText, upperText, upperText,
      List.flatMap_append]

theorem filter_upperSnakeCase (s : String) :
    (upperSnakeCase s).toList.filter (· ∉ separators) = letters s.toList := by
  have hsep : ['_'].filter (· ∉ separators) = [] := by decide
  rw [upperSnakeCase_toList, filter_intercalate hsep, flatten_upperWords, filter_upperText, letters,
    filter_flatten_words, letters]

theorem subset_upperSnakeCase {s : String} {c : Char} (hc : c ∉ separators) (hmem : c ∈ s.toList) :
    upperChar c ⊆ (upperSnakeCase s).toList := by
  intro d hd
  have hletter : d ∈ letters s.toList := List.mem_flatMap.mpr ⟨c, List.mem_filter.mpr ⟨hmem, by simpa using hc⟩, hd⟩
  rw [← filter_upperSnakeCase] at hletter
  exact (List.mem_filter.mp hletter).1

/-- A text in which each underscore stands between words: no mark attaches to it. -/
def UnderscoresSeparate (cs : List Char) : Prop := ∀ w ∈ words cs, '_' ∉ w

theorem wordsFrom_ne_nil (word : List Char) (cs : List (List Char)) : wordsFrom word cs ≠ [] := by
  fun_induction wordsFrom word cs with
  | case1 => exact List.cons_ne_nil _ _
  | case2 => exact List.cons_ne_nil _ _
  | case3 => exact List.cons_ne_nil _ _
  | case4 word a rest _ _ ih => exact ih

/-- Words are read back between the underscores. -/
theorem splitOn_upperSnakeCase {s : String} (h : UnderscoresSeparate s.toList) :
    (upperSnakeCase s).toList.splitOn '_' = upperWords s.toList := by
  rw [upperSnakeCase_toList]
  refine List.splitOn_intercalate '_' ?_ ?_
  · intro w hw
    obtain ⟨word, hword, rfl⟩ := List.mem_map.mp hw
    intro hmem
    obtain ⟨c, hc, hupper⟩ := List.mem_flatMap.mp hmem
    have hne : c ≠ '_' := by
      rintro rfl
      exact h word hword hc
    exact not_mem_upperChar (by decide) hne hupper
  · exact fun hnil => wordsFrom_ne_nil _ _ (List.map_eq_nil_iff.mp hnil)

theorem upperSnakeCase_eq_iff {s t : String} (hs : UnderscoresSeparate s.toList) (ht : UnderscoresSeparate t.toList) :
    upperSnakeCase s = upperSnakeCase t ↔ upperWords s.toList = upperWords t.toList := by
  constructor
  · intro h
    rw [← splitOn_upperSnakeCase hs, ← splitOn_upperSnakeCase ht, h]
  · intro h
    rw [← String.toList_inj, upperSnakeCase_toList, upperSnakeCase_toList, h]

theorem underscoresSeparate_of_not_mem {cs : List Char} (h : '_' ∉ cs) : UnderscoresSeparate cs :=
  fun _ hw hmem => h (subset_of_mem_words hw hmem)

def capitalised : List Char → List Char
  | [] => []
  | c :: cs => c :: lowerText cs

def camelCase (cs : List Char) : List Char := (upperWords cs).flatMap capitalised

/-- A text that is put together of words with one capital each. -/
structure IsCamelCase (cs : List Char) : Prop where
  no_underscore : '_' ∉ cs
  composed : camelCase cs = cs

theorem IsCamelCase.eq_of_upperSnakeCase {s t : String} (hs : IsCamelCase s.toList) (ht : IsCamelCase t.toList)
    (h : upperSnakeCase s = upperSnakeCase t) : s = t := by
  have hwords : upperWords s.toList = upperWords t.toList :=
    (upperSnakeCase_eq_iff (underscoresSeparate_of_not_mem hs.no_underscore)
      (underscoresSeparate_of_not_mem ht.no_underscore)).mp h
  rw [← String.toList_inj, ← hs.composed, ← ht.composed, camelCase, camelCase, hwords]

end HostBinder.Text

import HostBinder.Text.IdentChar
import HostBinder.Text.Words

set_option autoImplicit false

namespace HostBinder.Text

theorem flatten_clusters (cs : List Char) : (clusters cs).flatten = cs := by
  fun_induction clusters cs with
  | case1 => rfl
  | case2 => rfl
  | case3 c d rest cluster more heq hjoined ih => simpa [heq] using ih
  | case4 c d rest cluster more heq hjoined ih => simpa [heq] using ih
  | case5 c d rest heq ih => simp [heq] at ih

theorem subset_of_mem_wordsFrom {cs : List (List Char)} {word w : List Char} (hw : w ∈ wordsFrom word cs) :
    w ⊆ word ++ cs.flatten := by
  fun_induction wordsFrom word cs with
  | case1 word => simp [List.mem_singleton.mp hw]
  | case2 word a rest _ ih =>
    rcases List.mem_cons.mp hw with rfl | hw
    · exact List.subset_append_left _ _
    · rw [List.flatten_cons]
      exact List.subset_append_of_subset_right _ (List.subset_append_of_subset_right _ (ih hw))
  | case3 word a rest _ _ ih =>
    rw [List.flatten_cons, ← List.append_assoc]
    rcases List.mem_cons.mp hw with rfl | hw
    · exact List.subset_append_left _ _
    · exact List.subset_append_of_subset_right _ (ih hw)
  | case4 word a rest _ _ ih => simpa using ih hw

theorem subset_of_mem_words {cs w : List Char} (hw : w ∈ words cs) : w ⊆ cs := by
  have hsub := subset_of_mem_wordsFrom hw
  rwa [List.nil_append, flatten_clusters] at hsub

theorem mem_or_mem_of_mem_intercalate {sep : List Char} {c : Char} {ws : List (List Char)}
    (h : c ∈ List.intercalate sep ws) : c ∈ sep ∨ ∃ w ∈ ws, c ∈ w := by
  induction ws with
  | nil => simp [List.intercalate] at h
  | cons w ws ih =>
    cases ws with
    | nil => exact .inr ⟨w, by simp, by simpa [List.intercalate_singleton] using h⟩
    | cons w' ws =>
      rw [List.intercalate_cons_cons, List.append_assoc, List.mem_append, List.mem_append] at h
      rcases h with h | h | h
      · exact .inr ⟨w, by simp, h⟩
      · exact .inl h
      · exact (ih h).imp_right fun hx => hx.imp fun _ hw => ⟨List.mem_cons_of_mem _ hw.1, hw.2⟩

theorem ofNat_ne {n : Nat} {d : Char} (hd : d ≠ '\x00') (h : n ≠ d.toNat) : Char.ofNat n ≠ d := by
  intro heq
  by_cases hvalid : n.isValidChar
  · have hchar : Char.ofNat n = Char.ofNatAux n hvalid := dif_pos hvalid
    have hnat : n = d.toNat := congrArg Char.toNat (hchar.symm.trans heq)
    exact h hnat
  · have hchar : Char.ofNat n = '\x00' := dif_neg hvalid
    exact hd (heq.symm.trans hchar)

/-- A character beside all that the tables go to comes from itself only. -/
theorem not_mem_mapCase {runs : List CaseRun} {expansions : List (Nat × List Nat)} {c d : Char} (hd : d ≠ '\x00')
    (hruns : ∀ run ∈ runs, (d.toNat : Int) < run.1 + run.2.2.2 ∨ run.2.1 + run.2.2.2 < (d.toNat : Int))
    (hexpansions : ∀ e ∈ expansions, d.toNat ∉ e.2) (hc : c ≠ d) : d ∉ mapCase runs expansions c := by
  unfold mapCase
  split
  · rename_i e he
    intro hmem
    obtain ⟨n, hn, heq⟩ := List.mem_map.mp hmem
    exact ofNat_ne hd (ne_of_mem_of_not_mem hn (hexpansions e (List.mem_of_find?_eq_some he))) heq
  · split
    · rename_i run hrun
      have hbounds : run.1 ≤ c.toNat ∧ c.toNat ≤ run.2.1 := by
        have hcovers := List.find?_some hrun
        simp only [CaseRun.covers, Bool.and_eq_true, decide_eq_true_eq] at hcovers
        exact hcovers.1
      have hoff := hruns run (List.mem_of_find?_eq_some hrun)
      have hpositive : d.toNat ≠ 0 := fun hzero => hd (Char.toNat_inj.mp hzero)
      rw [List.mem_singleton]
      exact (ofNat_ne hd (by omega)).symm
    · simpa using hc.symm

def identRanges : List (Nat × Nat) := identStartRanges ++ identRestRanges

def inIdentRange (first last : Nat) : Bool := identRanges.any fun r => Nat.ble r.1 first && Nat.ble last r.2

theorem inIdentRange_iff {first last : Nat} :
    inIdentRange first last = true ↔ ∃ r ∈ identRanges, r.1 ≤ first ∧ last ≤ r.2 := by
  simp only [inIdentRange, List.any_eq_true, Bool.and_eq_true, Nat.ble_eq]

def asciiIdentRanges : List (Nat × Nat) := [(48, 57), (65, 90), (95, 95), (97, 122)]

theorem mem_asciiIdentRanges_iff {r : Nat × Nat} : r ∈ asciiIdentRanges ↔ r ∈ identRanges ∧ r.1 < 128 := by
  have hsub : ∀ r ∈ asciiIdentRanges, r ∈ identRanges ∧ r.1 < 128 := by decide +kernel
  have hall : ∀ r ∈ identRanges, r.1 < 128 → r ∈ asciiIdentRanges := by decide +kernel
  exact ⟨hsub r, fun h => hall r h.1 h.2⟩

theorem isIdentRest_iff {c : Char} : isIdentRest c = true ↔ inIdentRange c.toNat c.toNat = true := by
  rw [inIdentRange_iff]
  by_cases hascii : c.toNat < 128
  · have hall : ∀ n < 128, isIdentRest (Char.ofNat n) = true ↔ ∃ r ∈ asciiIdentRanges, r.1 ≤ n ∧ n ≤ r.2 := by
      decide +kernel
    have hchar := hall c.toNat hascii
    rw [Char.ofNat_toNat] at hchar
    simp only [hchar, mem_asciiIdentRanges_iff]
    exact exists_congr fun r => ⟨fun h => ⟨h.1.1, h.2⟩, fun h => ⟨⟨h.1, by omega⟩, h.2⟩⟩
  · have halnum : (c.isAlphanum || c == '_') = false := by
      have hclasses : c.isAlphanum =
          (decide (65 ≤ c.val ∧ c.val ≤ 90) || decide (97 ≤ c.val) && decide (c.val ≤ 122) ||
            decide (48 ≤ c.val) && decide (c.val ≤ 57)) := rfl
      rw [Bool.or_eq_false_iff, beq_eq_false_iff_ne]
      constructor
      · have hlarge : ¬c.val.toNat < 128 := hascii
        simp [hclasses, UInt32.le_iff_toNat_le]
        omega
      · rintro rfl
        exact hascii (by decide)
    rw [isIdentRest, halnum, inRanges, inRanges, ← List.any_append, Bool.false_or, Bool.and_eq_true,
      decide_eq_true_eq, List.any_eq_true]
    simp only [Bool.and_eq_true, decide_eq_true_eq]
    exact and_iff_right (by omega)

theorem isIdentRest_ofNat {first last n : Nat} (hrange : inIdentRange first last = true)
    (hn : first ≤ n ∧ n ≤ last) : isIdentRest (Char.ofNat n) = true := by
  obtain ⟨r, hr, hfirst, hlast⟩ := inIdentRange_iff.mp hrange
  have hscalars : ∀ r ∈ identRanges, r.2 < 0xd800 ∨ (0xdfff < r.1 ∧ r.2 < 0x110000) := by decide +kernel
  have hvalid : n.isValidChar := by
    rcases hscalars r hr with h | h
    · exact .inl (by omega)
    · exact .inr ⟨by omega, by omega⟩
  have htoNat : (Char.ofNat n).toNat = n := by
    rw [Char.ofNat, dif_pos hvalid]
    rfl
  rw [isIdentRest_iff, htoNat, inIdentRange_iff]
  exact ⟨r, hr, by omega, by omega⟩

/-- Whether the characters that a run moves go to identifier characters, if they are such themselves: all go into one
range of these, or each is looked at. -/
def CaseRun.staysIdent (run : CaseRun) : Bool :=
  inIdentRange (run.1 + run.2.2.2).toNat (run.2.1 + run.2.2.2).toNat ||
    (List.range' run.1 (run.2.1 + 1 - run.1)).all fun n =>
      !run.covers n || !inIdentRange n n || inIdentRange (n + run.2.2.2).toNat (n + run.2.2.2).toNat

theorem CaseRun.isIdentRest_moved {run : CaseRun} (hstays : run.staysIdent = true) {c : Char}
    (hcovers : run.covers c.toNat = true) (hc : isIdentRest c = true) :
    isIdentRest (Char.ofNat (c.toNat + run.2.2.2).toNat) = true := by
  have hbounds : run.1 ≤ c.toNat ∧ c.toNat ≤ run.2.1 := by
    simp only [CaseRun.covers, Bool.and_eq_true, decide_eq_true_eq] at hcovers
    exact hcovers.1
  rw [CaseRun.staysIdent, Bool.or_eq_true, List.all_eq_true] at hstays
  rcases hstays with hinside | heach
  · exact isIdentRest_ofNat hinside ⟨by omega, by omega⟩
  · have hmem : c.toNat ∈ List.range' run.1 (run.2.1 + 1 - run.1) := by
      rw [List.mem_range'_1]
      omega
    have hmoved := heach c.toNat hmem
    rw [hcovers, isIdentRest_iff.mp hc, Bool.not_true, Bool.false_or, Bool.false_or] at hmoved
    exact isIdentRest_ofNat hmoved ⟨Nat.le_refl _, Nat.le_refl _⟩

theorem isIdentRest_of_mem_mapCase {runs : List CaseRun} {expansions : List (Nat × List Nat)} {c d : Char}
    (hruns : ∀ run ∈ runs, run.staysIdent = true)
    (hexpansions : ∀ e ∈ expansions, ∀ n ∈ e.2, inIdentRange n n = true) (hc : isIdentRest c = true)
    (hd : d ∈ mapCase runs expansions c) : isIdentRest d = true := by
  unfold mapCase at hd
  split at hd
  · rename_i e he
    obtain ⟨n, hn, rfl⟩ := List.mem_map.mp hd
    exact isIdentRest_ofNat (hexpansions e (List.mem_of_find?_eq_some he) n hn) ⟨Nat.le_refl _, Nat.le_refl _⟩
  · split at hd
    · rename_i run hrun
      have hcovers := List.find?_some hrun
      rw [List.mem_singleton.mp hd]
      exact run.isIdentRest_moved (hruns run (List.mem_of_find?_eq_some hrun)) hcovers hc
    · rwa [List.mem_singleton.mp hd]

theorem isIdentRest_of_mem_upperChar {c d : Char} (hc : isIdentRest c = true) (hd : d ∈ upperChar c) :
    isIdentRest d = true := by
  unfold upperChar at hd
  split at hd
  · rename_i hascii
    have hupper : ∀ n < 128, isIdentRest (Char.ofNat n) = true → isIdentRest (Char.ofNat n).toUpper = true := by
      decide +kernel
    have hchar := hupper c.toNat hascii
    rw [Char.ofNat_toNat] at hchar
    rw [List.mem_singleton.mp hd]
    exact hchar hc
  · exact isIdentRest_of_mem_mapCase (by decide +kernel) (by decide +kernel) hc hd

theorem isIdentRest_of_mem_upperSnakeCase {s : String} (hs : ∀ c ∈ s.toList, isIdentRest c = true) {d : Char}
    (hd : d ∈ (upperSnakeCase s).toList) : isIdentRest d = true := by
  rw [upperSnakeCase, String.toList_ofList] at hd
  rcases mem_or_mem_of_mem_intercalate hd with hd | ⟨w, hw, hd⟩
  · rw [List.mem_singleton.mp hd]
    decide
  · obtain ⟨word, hword, rfl⟩ := List.mem_map.mp hw
    obtain ⟨c, hc, hd⟩ := List.mem_flatMap.mp hd
    exact isIdentRest_of_mem_upperChar (hs c (subset_of_mem_words hword hc)) hd

end HostBinder.Text

import HostBinder.Proofs.Files.Writing
import Mathlib.Tactic.SplitIfs

set_option autoImplicit false

namespace HostBinder.FileTree

variable {t : FileTree} {p : Place}

structure IsPlain (name : String) : Prop where
  ne_empty : name ≠ ""
  no_slash : '/' ∉ name.toList

theorem splitSlashes_ne_nil (cs : List Char) : Files.splitSlashes cs ≠ [] := by
  cases cs with
  | nil => simp [Files.splitSlashes]
  | cons c cs =>
    unfold Files.splitSlashes
    split_ifs
    · simp
    · split <;> simp

theorem splitSlashes_append (cs ds : List Char) :
    Files.splitSlashes (cs ++ '/' :: ds) = Files.splitSlashes cs ++ Files.splitSlashes ds := by
  induction cs with
  | nil => rfl
  | cons c cs ih =>
    rw [List.cons_append, Files.splitSlashes, Files.splitSlashes, ih]
    split_ifs
    · rfl
    · cases hs : Files.splitSlashes cs with
      | nil => exact absurd hs (splitSlashes_ne_nil cs)
      | cons w ws => rfl

theorem splitSlashes_of_no_slash {cs : List Char} (h : '/' ∉ cs) : Files.splitSlashes cs = [cs] := by
  induction cs with
  | nil => rfl
  | cons c cs ih =>
    obtain ⟨hc, hcs⟩ := not_or.mp (List.mem_cons.not.mp h)
    rw [Files.splitSlashes, if_neg (Ne.symm hc), ih hcs]

theorem pathNames_append (directory : List Char) {name : String} (h : IsPlain name) :
    Files.pathNames (String.ofList (directory ++ '/' :: name.toList)) =
      Files.pathNames (String.ofList directory) ++ [name] := by
  have hne : name.toList ≠ [] := by simpa using h.ne_empty
  simp [Files.pathNames, splitSlashes_append, splitSlashes_of_no_slash h.no_slash, hne]

theorem pathNames_joinPath (directory : String) {name : String} (h : IsPlain name) :
    Files.pathNames (Files.joinPath directory name) = Files.pathNames directory ++ [name] := by
  have hrelative : Files.isAbsolute name = false := by
    cases hn : name.toList with
    | nil => simp [Files.isAbsolute, hn]
    | cons c cs =>
      have hno := h.no_slash
      rw [hn] at hno
      simpa [Files.isAbsolute, hn] using Ne.symm (not_or.mp (List.mem_cons.not.mp hno)).1
  rw [Files.joinPath, hrelative, Bool.false_or]
  split_ifs with hempty hslashed
  · obtain rfl : directory = "" := String.isEmpty_iff.mp hempty
    have hne : name.toList ≠ [] := by simpa using h.ne_empty
    simp [Files.pathNames, splitSlashes_of_no_slash h.no_slash, hne, Files.splitSlashes]
  · -- the slash at the end of the directory is the one between the two
    obtain ⟨cs, hcs⟩ : ∃ cs, directory.toList = cs ++ ['/'] := by
      rw [Files.isSlashed, decide_eq_true_eq] at hslashed
      obtain ⟨cs, hcs⟩ := List.getLast?_eq_some_iff.mp hslashed
      exact ⟨cs, hcs⟩
    have hdirectory : directory = String.ofList (cs ++ '/' :: []) := by rw [← hcs, String.ofList_toList]
    have hjoined : directory ++ name = String.ofList (cs ++ '/' :: name.toList) := by
      apply String.toList_injective
      simp [hcs]
    rw [hjoined, pathNames_append cs h, hdirectory]
    simp [Files.pathNames, splitSlashes_append, Files.splitSlashes]
  · have hjoined : directory ++ "/" ++ name = String.ofList (directory.toList ++ '/' :: name.toList) := by
      apply String.toList_injective
      simp
    rw [hjoined, pathNames_append _ h, String.ofList_toList]

theorem isSlashed_joinPath (directory : String) {name : String} (h : IsPlain name) :
    Files.isSlashed (Files.joinPath directory name) = false := by
  obtain ⟨c, hc⟩ : ∃ c, name.toList.getLast? = some c := by
    rw [← Option.ne_none_iff_exists', ne_eq, List.getLast?_eq_none_iff]
    simpa using h.ne_empty
  have hne : c ≠ '/' := fun heq => h.no_slash (heq ▸ List.mem_of_getLast? hc)
  rw [Files.joinPath]
  split_ifs <;> simp [Files.isSlashed, List.getLast?_append, List.getLast?_cons, hc, hne]

theorem resolve_joinPath {directory name : String} (h : IsPlain name) {d : Destination}
    (hd : t.resolve (Files.joinPath directory name) = .ok d) : d.name = name ∧ d.slashed = false := by
  simp only [resolve, Attempt.ite_throw_eq_ok_iff, pathNames_joinPath directory h, List.getLast?_append,
    List.getLast?_singleton, Option.some_or, Attempt.bind_eq_ok_iff, Attempt.pure_eq_ok_iff,
    isSlashed_joinPath directory h] at hd
  obtain ⟨_, _, _, start, _, rfl⟩ := hd
  exact ⟨rfl, rfl⟩

theorem getLast?_of_target_joinPath {directory name : String} (h : IsPlain name)
    (hp : t.target (Files.joinPath directory name) = .ok p) : p.getLast? = some name := by
  obtain ⟨d, hd, _, _, _, _, rfl⟩ := target_eq_ok_iff.mp hp
  simp [Destination.place, (resolve_joinPath h hd).1]

/-- Two plain names in one directory never stand for the same file. -/
theorem apart_joinPath {directory name other : String} (h : IsPlain name) (ho : IsPlain other) (hne : name ≠ other) :
    t.Apart (Files.joinPath directory name) (Files.joinPath directory other) := by
  intro p hp hp'
  have hlast := getLast?_of_target_joinPath h hp
  rw [getLast?_of_target_joinPath ho hp', Option.some.injEq] at hlast
  exact hne hlast.symm

end HostBinder.FileTree

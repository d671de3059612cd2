import HostBinder.Files.Tree
import HostBinder.Proofs.Attempt

set_option autoImplicit false

/-!
What a written file does to the paths of a tree. Where a path leads depends on the directories alone, and a file
is never written in the place of a directory; so every path leads where it did, and only the place written to
has another content.
-/

namespace HostBinder.FileTree

variable {t t' t'' : FileTree} {p q : Place} {path text : String}

/-- Both trees have the same directories, and relative paths start at the same place. -/
structure SameDirectories (t t' : FileTree) : Prop where
  isDirectory_eq : ∀ p, t'.isDirectory p = t.isDirectory p
  workingDirectory_eq : t'.workingDirectory = t.workingDirectory

theorem SameDirectories.refl (t : FileTree) : t.SameDirectories t := ⟨fun _ => rfl, rfl⟩

theorem SameDirectories.trans (h : t.SameDirectories t') (h' : t'.SameDirectories t'') :
    t.SameDirectories t'' :=
  ⟨fun p => (h'.isDirectory_eq p).trans (h.isDirectory_eq p),
    h'.workingDirectory_eq.trans h.workingDirectory_eq⟩

def placeNamed? (p : Place) (name : String) : Option Place :=
  if name = "." then some p
  else if name = ".." then some p.dropLast
  else if Files.maxNameLength < name.utf8ByteSize then none
  else some (p ++ [name])

theorem isSome_of_isDirectory (h : t.isDirectory p = true) : (t.get? p).isSome = true := by
  unfold isDirectory at h
  cases hp : t.get? p with
  | none => simp [hp] at h
  | some e => rfl

theorem step_eq_ok_iff {name : String} :
    t.step p name = .ok q ↔
      placeNamed? p name = some q ∧ (name = "." ∨ name = ".." ∨ (t.get? q).isSome = true) := by
  rw [step, placeNamed?]
  by_cases hdot : name = "."
  · simp [hdot]
  by_cases hdots : name = ".."
  · simp [hdots]
  by_cases hlong : Files.maxNameLength < name.utf8ByteSize
  · simp [hdot, hdots, hlong]
  cases hq : (t.get? (p ++ [name])).isSome with
  | false =>
    have hne : ¬(p ++ [name] = q ∧ (t.get? q).isSome = true) := by
      rintro ⟨rfl, h⟩
      simp [hq] at h
    simpa [hdot, hdots, hlong, hq] using hne
  | true =>
    have : p ++ [name] = q → (t.get? q).isSome = true := by
      rintro rfl
      exact hq
    simpa [hdot, hdots, hlong, hq] using this

theorem enter_eq_ok_iff {name : String} :
    t.enter p name = .ok q ↔ placeNamed? p name = some q ∧ t.isDirectory q = true := by
  rw [enter, Attempt.bind_eq_ok_iff]
  constructor
  · intro hx
    obtain ⟨r, hr, hq⟩ := hx
    cases hd : t.isDirectory r with
    | false => simp [hd, Attempt.throw_eq_ok_iff] at hq
    | true =>
      rw [hd, if_pos rfl, Attempt.pure_eq_ok_iff] at hq
      subst hq
      exact ⟨(step_eq_ok_iff.mp hr).1, hd⟩
  · intro hx
    obtain ⟨hname, hd⟩ := hx
    refine ⟨q, step_eq_ok_iff.mpr ⟨hname, .inr (.inr (isSome_of_isDirectory hd))⟩, ?_⟩
    rw [hd]
    rfl

theorem SameDirectories.foldlM_enter (h : t.SameDirectories t') (names : List String) (start : Place) :
    names.foldlM t'.enter start = .ok q ↔ names.foldlM t.enter start = .ok q := by
  induction names generalizing start with
  | nil => rfl
  | cons name names ih =>
    simp only [List.foldlM_cons, Attempt.bind_eq_ok_iff, enter_eq_ok_iff, h.isDirectory_eq, ih]

theorem SameDirectories.resolve_eq_ok_iff (h : t.SameDirectories t') {d : Destination} :
    t'.resolve path = .ok d ↔ t.resolve path = .ok d := by
  simp only [resolve, Attempt.ite_throw_eq_ok_iff]
  repeat' apply and_congr_right'
  cases (Files.pathNames path).getLast? with
  | none => simp only [Attempt.throw_eq_ok_iff]
  | some name => simp only [Attempt.bind_eq_ok_iff, h.workingDirectory_eq, h.foldlM_enter]

theorem target_eq_ok_iff :
    t.target path = .ok p ↔ ∃ d, t.resolve path = .ok d ∧ d.isDots = false ∧ d.slashed = false ∧
      d.name.utf8ByteSize ≤ Files.maxNameLength ∧ t.isDirectory d.place = false ∧ d.place = p := by
  simp only [target, Attempt.bind_eq_ok_iff, Attempt.ite_throw_eq_ok_iff, Attempt.pure_eq_ok_iff]
  simp [and_assoc]

theorem SameDirectories.target_eq_ok_iff (h : t.SameDirectories t') :
    t'.target path = .ok p ↔ t.target path = .ok p := by
  simp only [FileTree.target_eq_ok_iff, h.resolve_eq_ok_iff, h.isDirectory_eq]

theorem not_isDirectory_of_target (h : t.target path = .ok p) : t.isDirectory p = false := by
  obtain ⟨d, _, _, _, _, hd, rfl⟩ := target_eq_ok_iff.mp h
  exact hd

theorem ne_nil_of_not_isDirectory (h : t.isDirectory p = false) : p ≠ [] := by
  rintro rfl
  simp [isDirectory, get?, FileEntry.isDirectory] at h

theorem SameDirectories.set {content : ByteArray} (h : t.isDirectory p = false) :
    t.SameDirectories (t.set p (.file content)) := by
  refine ⟨fun q => ?_, rfl⟩
  by_cases hq : q = p
  · subst hq
    rw [h, isDirectory, get?_set_self t _ (ne_nil_of_not_isDirectory h)]
    rfl
  · rw [isDirectory, get?_set_of_ne t _ hq, isDirectory]

theorem write_eq_ok_iff :
    t.write path text = .ok t' ↔ ∃ p, t.target path = .ok p ∧ t' = t.set p (.file text.toUTF8) := by
  simp only [write, Attempt.bind_eq_ok_iff, Attempt.pure_eq_ok_iff, @eq_comm _ t']

theorem write_eq_error_iff {reason : FileError} :
    t.write path text = .error reason ↔ t.target path = .error reason := by
  rw [write, Attempt.bind_eq_error_iff]
  simp [pure, Except.pure]

theorem SameDirectories.write (h : t.write path text = .ok t') : t.SameDirectories t' := by
  obtain ⟨p, hp, rfl⟩ := write_eq_ok_iff.mp h
  exact .set (not_isDirectory_of_target hp)

def isWritable (t : FileTree) (path : String) : Bool := (t.target path).isOk

/-- A file written at one path is never the file at the other. -/
def Apart (t : FileTree) (path other : String) : Prop := ∀ p, t.target path = .ok p → t.target other ≠ .ok p

theorem isWritable_iff : t.isWritable path = true ↔ ∃ p, t.target path = .ok p := by
  rw [isWritable]
  cases t.target path <;> simp [Except.isOk, Except.toBool]

theorem SameDirectories.isWritable_eq (h : t.SameDirectories t') : t'.isWritable path = t.isWritable path := by
  rw [Bool.eq_iff_iff, isWritable_iff, isWritable_iff]
  simp only [h.target_eq_ok_iff]

theorem SameDirectories.apart_iff {other : String} (h : t.SameDirectories t') :
    t'.Apart path other ↔ t.Apart path other := by
  simp only [Apart, Ne, h.target_eq_ok_iff]

theorem get?_write_of_ne (h : t.write path text = .ok t') (hq : t.target path ≠ .ok q) :
    t'.get? q = t.get? q := by
  obtain ⟨p, hp, rfl⟩ := write_eq_ok_iff.mp h
  refine get?_set_of_ne t _ ?_
  rintro rfl
  exact hq hp

theorem write_of_isWritable (h : t.isWritable path = true) (text : String) :
    ∃ t', t.write path text = .ok t' := by
  obtain ⟨p, hp⟩ := isWritable_iff.mp h
  exact ⟨_, write_eq_ok_iff.mpr ⟨p, hp, rfl⟩⟩

theorem write_of_not_isWritable (h : t.isWritable path = false) (text : String) :
    ∃ reason, t.write path text = .error reason := by
  cases ht : t.target path with
  | ok p => simp [isWritable, ht, Except.isOk, Except.toBool] at h
  | error reason => exact ⟨reason, write_eq_error_iff.mpr ht⟩

theorem read_eq_ok_iff_of_target {content : ByteArray} (h : t.target path = .ok p) :
    t.read path = .ok content ↔ t.get? p = some (.file content) := by
  obtain ⟨d, hd, hdots, hslashed, hlong, _, rfl⟩ := target_eq_ok_iff.mp h
  simp only [Destination.isDots, Bool.or_eq_false_iff, decide_eq_false_iff_not] at hdots
  have hstep : ∀ q, t.step d.directory d.name = .ok q ↔ d.place = q ∧ (t.get? d.place).isSome = true := by
    intro q
    rw [step_eq_ok_iff]
    have hname : placeNamed? d.directory d.name = some d.place := by
      simp [placeNamed?, hdots, Nat.not_lt.mpr hlong, Destination.place]
    simp only [hname, hdots, false_or, Option.some.injEq]
    exact and_congr_right fun hq => by rw [hq]
  rw [read, hd]
  simp only [Attempt.bind_eq_ok_iff, Except.ok.injEq, exists_eq_left', hstep, and_assoc, hslashed]
  cases t.get? d.place with
  | none => simp
  | some e => cases e <;> simp [Attempt.throw_eq_ok_iff, Attempt.pure_eq_ok_iff]

theorem SameDirectories.read_eq_ok_iff {content : ByteArray} (h : t.SameDirectories t')
    (hp : t.target path = .ok p) (hget : t'.get? p = t.get? p) :
    t'.read path = .ok content ↔ t.read path = .ok content := by
  rw [read_eq_ok_iff_of_target (h.target_eq_ok_iff.mpr hp), hget, read_eq_ok_iff_of_target hp]

theorem read_write (h : t.write path text = .ok t') : t'.read path = .ok text.toUTF8 := by
  have hsame := SameDirectories.write h
  obtain ⟨p, hp, rfl⟩ := write_eq_ok_iff.mp h
  exact (read_eq_ok_iff_of_target (hsame.target_eq_ok_iff.mpr hp)).mpr
    (get?_set_self t _ (ne_nil_of_not_isDirectory (not_isDirectory_of_target hp)))

theorem read_write_of_apart {other : String} {content : ByteArray} (h : t.write path text = .ok t')
    (hother : t.isWritable other = true) (hapart : t.Apart other path) :
    t'.read other = .ok content ↔ t.read other = .ok content := by
  obtain ⟨q, hq⟩ := isWritable_iff.mp hother
  exact (SameDirectories.write h).read_eq_ok_iff hq (get?_write_of_ne h (hapart q hq))

theorem read_write_of_not_apart {other : String} (h : t.write path text = .ok t')
    (hapart : ¬t.Apart other path) : t'.read other = .ok text.toUTF8 := by
  have hsame := SameDirectories.write h
  simp only [Apart, ne_eq, not_forall, not_not] at hapart
  obtain ⟨p, hother, hp⟩ := hapart
  rw [read_eq_ok_iff_of_target (hsame.target_eq_ok_iff.mpr hother),
    ← read_eq_ok_iff_of_target (hsame.target_eq_ok_iff.mpr hp)]
  exact read_write h

end HostBinder.FileTree

import HostBinder.Proofs.Files.PlainNames

set_option autoImplicit false

namespace HostBinder.FileTree

variable {t : FileTree} {path directory name text : String} {d : Destination}

/-- There is nothing where the path leads, or a directory on the way there is missing. -/
def IsMissing (t : FileTree) (path : String) : Prop :=
  t.resolve path = .error .notFound ∨ ∃ d, t.resolve path = .ok d ∧ t.get? d.place = none

def HasText (t : FileTree) (path text : String) : Prop :=
  ∃ d, t.resolve path = .ok d ∧ t.get? d.place = some (.file text.toUTF8)

/-- A name that a file can have: it stands for no directory, and a directory can hold it. -/
structure IsFileName (name : String) : Prop extends IsPlain name where
  ne_dot : name ≠ "."
  ne_dots : name ≠ ".."
  fits : ¬Files.maxNameLength < name.utf8ByteSize

theorem fromUTF8?_eq_some_iff {content : ByteArray} : String.fromUTF8? content = some text ↔ content = text.toUTF8 := by
  unfold String.fromUTF8?
  constructor
  · intro h
    split at h
    · cases h
      rfl
    · cases h
  · rintro rfl
    exact dif_pos text.isValidUTF8

theorem readText_eq_ok_iff : t.readText path = .ok text ↔ t.read path = .ok text.toUTF8 := by
  rw [readText, Attempt.bind_eq_ok_iff]
  constructor
  · intro h
    obtain ⟨content, hread, h⟩ := h
    split at h
    · rename_i hcontent
      rw [Attempt.pure_eq_ok_iff.mp h] at hcontent
      rw [hread, fromUTF8?_eq_some_iff.mp hcontent]
    · exact absurd h Attempt.throw_eq_ok_iff.mp
  · intro h
    refine ⟨_, h, ?_⟩
    rw [fromUTF8?_eq_some_iff.mpr rfl]
    rfl

theorem readText_eq_notFound_iff : t.readText path = .error .notFound ↔ t.read path = .error .notFound := by
  rw [readText, Attempt.bind_eq_error_iff]
  constructor
  · rintro (h | ⟨content, _, h⟩)
    · exact h
    · -- a content that is no text is another error
      split at h <;> cases h
  · exact .inl

theorem read_of_resolve_eq_error {reason : FileError} (h : t.resolve path = .error reason) :
    t.read path = .error reason := by
  rw [read, h]
  rfl

theorem read_joinPath (h : IsFileName name) (hd : t.resolve (Files.joinPath directory name) = .ok d) :
    t.read (Files.joinPath directory name) =
      match t.get? d.place with
      | some (.file content) => .ok content
      | some .directory => .error .isDirectory
      | none => .error .notFound := by
  obtain ⟨hname, hslashed⟩ := resolve_joinPath h.toIsPlain hd
  have hplace : d.directory ++ [name] = d.place := by rw [Destination.place, hname]
  have hstep : t.step d.directory d.name = if (t.get? d.place).isSome then .ok d.place else .error .notFound := by
    rw [hname, step, if_neg h.ne_dot, if_neg h.ne_dots, if_neg h.fits, hplace]
  simp only [read, hd, hstep, hslashed, bind, Except.bind]
  cases hget : t.get? d.place with
  | none => rfl
  | some e => cases e <;> simp only [Option.isSome_some, if_true, hget] <;> rfl

theorem readText_joinPath_eq_ok_iff (h : IsFileName name) :
    t.readText (Files.joinPath directory name) = .ok text ↔ t.HasText (Files.joinPath directory name) text := by
  rw [readText_eq_ok_iff, HasText]
  cases hd : t.resolve (Files.joinPath directory name) with
  | error reason => simp [read_of_resolve_eq_error hd]
  | ok d =>
    rw [read_joinPath h hd]
    cases hget : t.get? d.place with
    | none => simp [hget]
    | some e => cases e <;> simp [hget]

theorem readText_joinPath_eq_notFound_iff (h : IsFileName name) :
    t.readText (Files.joinPath directory name) = .error .notFound ↔ t.IsMissing (Files.joinPath directory name) := by
  rw [readText_eq_notFound_iff, IsMissing]
  cases hd : t.resolve (Files.joinPath directory name) with
  | error reason => simp [read_of_resolve_eq_error hd]
  | ok d =>
    rw [read_joinPath h hd]
    cases hget : t.get? d.place with
    | none => simp [hget]
    | some e => cases e <;> simp [hget]

end HostBinder.FileTree

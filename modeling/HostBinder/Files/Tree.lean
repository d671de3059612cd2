import HostBinder.Files.Path

set_option autoImplicit false

/-!
Directories and files as they are found by their paths: what reading and writing a path does, and why either
can fail. Writing changes the one file that the path leads to.
-/

namespace HostBinder

abbrev Place := List String

inductive FileEntry where
  | directory
  | file (content : ByteArray)

def FileEntry.isDirectory : FileEntry → Bool
  | directory => true
  | file _ => false

inductive FileError where
  | unusablePath
  | nameTooLong
  | notFound
  | notDirectory
  | isDirectory
  | notText
  deriving DecidableEq, Repr

def FileError.message : FileError → String
  | .unusablePath => "file name contained an unexpected NUL byte"
  | .nameTooLong => "File name too long (os error 36)"
  | .notFound => "No such file or directory (os error 2)"
  | .notDirectory => "Not a directory (os error 20)"
  | .isDirectory => "Is a directory (os error 21)"
  | .notText => "stream did not contain valid UTF-8"

structure FileTree where
  entries : List (Place × FileEntry)
  workingDirectory : Place

/-- Where a path leads: a name in a directory, which may be there or not. -/
structure Destination where
  directory : Place
  name : String
  slashed : Bool
  deriving DecidableEq, Repr

namespace Destination

def place (d : Destination) : Place := d.directory ++ [d.name]

def isDots (d : Destination) : Bool := d.name = "." || d.name = ".."

end Destination

namespace FileTree

def get? (t : FileTree) (p : Place) : Option FileEntry :=
  if p = [] then some .directory else t.entries.lookup p

def isDirectory (t : FileTree) (p : Place) : Bool := (t.get? p).any FileEntry.isDirectory

def set (t : FileTree) (p : Place) (e : FileEntry) : FileTree :=
  { t with entries := (p, e) :: t.entries.filter fun old => old.1 != p }

def addDirectory (t : FileTree) (p : Place) : FileTree :=
  (List.range (p.length + 1)).foldl
    (fun t n => if (t.get? (p.take n)).isSome then t else t.set (p.take n) .directory) t

def below (t : FileTree) (p : Place) : List (String × FileEntry) :=
  (t.entries.filter fun e => p.isPrefixOf e.1 && e.1 != p).map fun e =>
    (String.intercalate "/" (e.1.drop p.length), e.2)

def step (t : FileTree) (p : Place) (name : String) : Except FileError Place :=
  if name = "." then .ok p
  else if name = ".." then .ok p.dropLast
  else if Files.maxNameLength < name.utf8ByteSize then .error .nameTooLong
  else if (t.get? (p ++ [name])).isSome then .ok (p ++ [name])
  else .error .notFound

def enter (t : FileTree) (p : Place) (name : String) : Except FileError Place := do
  let q ← t.step p name
  if t.isDirectory q then return q else throw .notDirectory

/-- Follow a path up to its last name. -/
def resolve (t : FileTree) (path : String) : Except FileError Destination := do
  if path.toList.contains '\x00' then throw .unusablePath
  if path.isEmpty then throw .notFound
  if Files.maxPathLength < path.utf8ByteSize then throw .nameTooLong
  let names := Files.pathNames path
  match names.getLast? with
  | none => throw .isDirectory
  | some name =>
    let start := if Files.isAbsolute path then [] else t.workingDirectory
    let directory ← names.dropLast.foldlM t.enter start
    return ⟨directory, name, Files.isSlashed path⟩

def read (t : FileTree) (path : String) : Except FileError ByteArray := do
  let d ← t.resolve path
  match t.get? (← t.step d.directory d.name) with
  | some (.file content) => if d.slashed then throw .notDirectory else return content
  | _ => throw .isDirectory

def readText (t : FileTree) (path : String) : Except FileError String := do
  match String.fromUTF8? (← t.read path) with
  | some text => return text
  | none => throw .notText

def target (t : FileTree) (path : String) : Except FileError Place := do
  let d ← t.resolve path
  if d.isDots || d.slashed then throw .isDirectory
  if Files.maxNameLength < d.name.utf8ByteSize then throw .nameTooLong
  if t.isDirectory d.place then throw .isDirectory
  return d.place

def write (t : FileTree) (path text : String) : Except FileError FileTree := do
  return t.set (← t.target path) (.file text.toUTF8)

@[simp] theorem get?_set_self (t : FileTree) {p : Place} (e : FileEntry) (h : p ≠ []) :
    (t.set p e).get? p = some e := by
  simp [get?, set, h]

theorem lookup_filter_ne {p q : Place} (h : q ≠ p) (entries : List (Place × FileEntry)) :
    (entries.filter fun old => old.1 != p).lookup q = entries.lookup q := by
  induction entries with
  | nil => rfl
  | cons e rest ih =>
    obtain ⟨k, x⟩ := e
    by_cases hk : k = p
    · subst hk
      simp [List.lookup_cons, beq_false_of_ne h, ih]
    · by_cases hq : q = k
      · simp [hk, hq]
      · simp [List.lookup_cons, hk, beq_false_of_ne hq, ih]

theorem get?_set_of_ne (t : FileTree) {p q : Place} (e : FileEntry) (h : q ≠ p) :
    (t.set p e).get? q = t.get? q := by
  simp [get?, set, List.lookup_cons, beq_false_of_ne h, lookup_filter_ne h]

end FileTree

end HostBinder

import HostBinder.Binder.Declaration

set_option autoImplicit false

namespace HostBinder

structure Import where
  path : String
  localName : String
  declaration : FieldDecl
  deriving DecidableEq, Repr

/-- Whether the type is imported under another name than its own. -/
def Import.isAliased (i : Import) : Bool := Text.lastSegment i.path != i.localName

/-- The name to try after `n` others were taken. -/
def candidateName (simple : String) (n : Nat) : String :=
  if n = 0 then simple else simple ++ toString (n + 1)

/-- The first candidate that is not taken. Numbers are natural ones; numbers of 32 bits give the same names up to some two
thousand million that are taken. -/
def freshName (simple : String) (taken : List String) : String :=
  (((List.range (taken.length + 1)).map (candidateName simple)).find? fun c => !taken.contains c).getD simple

def nameImports (taken : List String) : List (String × FieldDecl) → List Import
  | [] => []
  | (path, d) :: rest =>
    let name := freshName d.typeName taken
    ⟨path, name, d⟩ :: nameImports (taken ++ [name]) rest

def firstByType (ds : List FieldDecl) : SortedTable FieldDecl :=
  ds.foldl (fun t d => t.insertNew d.type d) ∅

structure ImportTable where
  entries : List Import
  deriving DecidableEq, Repr

namespace ImportTable

/-- The imports of the declared types; no local name is among the reserved ones. -/
def withReserved (reserved : List String) (ds : List FieldDecl) : ImportTable :=
  ⟨nameImports reserved (firstByType ds).entries⟩

def ofDeclarations (ds : List FieldDecl) : ImportTable := withReserved [] ds

def get? (t : ImportTable) (path : String) : Option Import := t.entries.find? fun i => i.path = path

def contains (t : ImportTable) (path : String) : Bool := (t.get? path).isSome

def local? (t : ImportTable) (path : String) : Option String := (t.get? path).map Import.localName

end ImportTable

end HostBinder

import HostBinder.Binder.Unit
import HostBinder.Event
import HostBinder.Files.Tree
import HostBinder.Text.Quoted

set_option autoImplicit false

namespace HostBinder

open Code

def includeLine (path : String) : String := "include!(" ++ Text.Quoted.text path ++ ");\n"

def indexText (paths : List String) : String :=
  "// @generated by viewbind\n" ++ String.join (paths.map includeLine)

structure Publication where
  files : FileTree
  written : List String
  diagnostics : List Diagnostic
  events : List Event

namespace Publication

def start (files : FileTree) : Publication := ⟨files, [], [], []⟩

def report (p : Publication) (d : Diagnostic) : Publication :=
  { p with diagnostics := p.diagnostics ++ [d], events := p.events ++ [.diagnosed d] }

def addUnit (directory : String) (p : Publication) (u : BinderUnit) : Except MalformedIdent Publication := do
  let path := Files.joinPath directory u.fileName
  let text ← u.render
  match p.files.write path text with
  | .ok files =>
    return { p with
      files
      written := p.written ++ [path]
      events := p.events ++ [.binderWritten u.registeredName path] }
  | .error reason => return p.report (.unitNotWritten u.hostPath path reason.message)

def addIndex (directory index : String) (p : Publication) : Publication :=
  let path := Files.joinPath directory index
  match p.files.write path (indexText p.written) with
  | .ok files => { p with files }
  | .error reason => p.report (.indexNotWritten path reason.message)

end Publication

def publish (files : FileTree) (directory index : String) (units : List BinderUnit) :
    Except MalformedIdent Publication := do
  let p ← units.foldlM (Publication.addUnit directory) (.start files)
  return p.addIndex directory index

end HostBinder

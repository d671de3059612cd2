import HostBinder.Code.Grammar

set_option autoImplicit false

namespace HostBinder

open Code

structure RootOverrides where
  core : Option String
  schema : Option String

def RootOverrides.none : RootOverrides := ⟨.none, .none⟩

structure CrateRoots where
  core : Tokens
  schema : Tokens

def rootOr (default : Tokens) (text? : Option String) : Tokens :=
  match text? with
  | some text =>
    match pathOfText? (String.ofList (Text.trim text.toList)) with
    | some p => p.written
    | none => default
  | none => default

namespace CrateRoots

def resolve (o : RootOverrides) : CrateRoots where
  core := rootOr (rooted ["viewbind", "core"]) o.core
  schema := rootOr (rooted ["viewbind", "schema"]) o.schema

def ctor (r : CrateRoots) : Tokens := within r.core ["__reexports", "ctor"]

end CrateRoots

def atStart (roots : CrateRoots) : Tokens :=
  outerAttribute [word "cfg", parens [word "not", parens (word "target_arch" :: op "=" ++ [quoted "wasm32"])]] ++
    outerAttribute (roots.ctor ++ op "::" ++
      [word "ctor",
        parens (word "unsafe" :: op "," ++ word "anonymous" :: op "," ++ word "crate_path" :: op "=" ++ roots.ctor)])

end HostBinder

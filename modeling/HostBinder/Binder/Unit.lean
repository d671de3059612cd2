import HostBinder.Binder.ImportTable
import HostBinder.CrateRoots
import HostBinder.Text.Words

set_option autoImplicit false

/-!
The unit generated for one host: a module with a binder type whose method assigns the host's bound fields,
and the code that registers it. A unit is data first; its source text is printed from it.
-/

namespace HostBinder

open Code

inductive TypeRef where
  | imported (name : String)
  | qualified (path : String)
  deriving DecidableEq, Repr

structure Assignment where
  field : String
  type : TypeRef
  id : Int32
  deriving DecidableEq, Repr

/-- The identifier that a field has in generated code: a reserved word is written raw, and a field that
cannot be written at all has none. -/
def fieldIdent? (field : String) : Except MalformedIdent (Option Ident) :=
  match nameOfText? field with
  | some i => .ok (some i)
  | none =>
    if unrawable.contains field then .ok none
    else if (nameOfText? ("r#" ++ field)).isSome then (rawIdent field).map some
    else .ok none

def TypeRef.tokens? : TypeRef → Option Tokens
  | .imported name => (nameOfText? name).map fun i => [.ident i]
  | .qualified path => (pathOfText? ("::" ++ path)).map CodePath.written

structure BinderUnit where
  package : String
  host : String
  name : String
  moduleName : String
  imports : ImportTable
  assignments : List Assignment
  roots : CrateRoots

namespace BinderUnit

def hostPath (u : BinderUnit) : String := memberPath u.package u.host

def registeredName (u : BinderUnit) : String := unitName u.hostPath

def fileName (u : BinderUnit) : String := u.moduleName ++ ".rs"

def packageSection (u : BinderUnit) : String :=
  "// @generated by viewbind for " ++ u.hostPath ++ "\npub mod " ++ u.moduleName ++ " \x7b\nuse ::" ++
    u.package ++ "::*;\n"

def importLine (i : Import) : String :=
  if i.isAliased then "use ::" ++ i.path ++ " as " ++ i.localName ++ ";\n" else "use ::" ++ i.path ++ ";\n"

def importSection (u : BinderUnit) : String := String.join (u.imports.entries.map importLine)

/-- The statement that looks a view up and assigns it to a field. -/
def statement (roots : CrateRoots) (field : Ident) (type : Tokens) (a : Assignment) : Tokens :=
  word "target" :: op "." ++ .ident field :: op "=" ++ within roots.core ["view", "Bound"] ++ op "::" ++
    op "<" ++ type ++ op ">" ++ op "::" ++
    [word "cast",
      parens (
        word "target" :: op "." ++ [word "find_view_by_id", parens (number a.id.toInt)] ++ op "," ++
          number a.id.toInt ++ op "," ++ quoted a.field :: op ",")] ++
    op "?" ++ op ";"

def statement? (roots : CrateRoots) (a : Assignment) : Except MalformedIdent Tokens := do
  match ← fieldIdent? a.field, a.type.tokens? with
  | some field, some type => return statement roots field type a
  | _, _ => return []

def success : Tokens := rooted ["core", "result", "Result", "Ok"] ++ [parens [parens []]]

def injectMethod (roots : CrateRoots) (host : Ident) (statements : Tokens) : Tokens :=
  [word "pub", word "fn", word "inject",
    parens (word "target" :: op ":" ++ op "&" ++ word "mut" :: .ident host :: op ",")] ++
    op "->" ++ rooted ["core", "result", "Result"] ++ op "<" ++ parens [] :: op "," ++
    within roots.core ["error", "InjectError"] ++ op ">" ++ [braces (statements ++ success)]

def registration (roots : CrateRoots) (host binder : Ident) (registered : String) : Tokens :=
  atStart roots ++
    [word "fn", word "__register", parens [],
      braces (within roots.core ["registry", "register"] ++ op "::" ++ op "<" ++ .ident host :: op ">" ++
        [parens (quoted registered :: op "," ++ .ident binder :: op "::" ++ [word "inject"])] ++ op ";")]

def body (u : BinderUnit) : Except MalformedIdent Tokens := do
  let host ← identOf u.host
  let binder ← identOf u.name
  let statements ← u.assignments.mapM (statement? u.roots)
  return word "use" :: within u.roots.core ["traits", "FindView"] ++ [word "as", word "_"] ++ op ";" ++
    [word "pub", word "struct", .ident binder] ++ op ";" ++
    [word "impl", .ident binder, braces (injectMethod u.roots host statements.flatten)] ++
    registration u.roots host binder u.registeredName

def render (u : BinderUnit) : Except MalformedIdent String := do
  return u.packageSection ++ u.importSection ++ textOf (← u.body) ++ "\n\x7d\n"

end BinderUnit

end HostBinder
